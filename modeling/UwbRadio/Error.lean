import UwbRadio.Text.Hexadecimal

/-!
What can go wrong, as causes. Each layer has its own type and one function that
words it. The fault that a bus itself reports is a parameter, so that the same
errors serve any bus.
-/

namespace UwbRadio

inductive AccessError (fault : Type)
  | bus (fault : fault)
  | invalidRegister (index : UInt8) (subAddress : UInt16) (length : Nat)
  | invalidWidth (width : Nat)
  /-- The address of the access is beyond the machine word that holds it. -/
  | addressOverflow
  deriving DecidableEq

namespace AccessError

def name {fault : Type} : AccessError fault → String
  | .bus _ => "Bus"
  | .invalidRegister _ _ _ => "InvalidRegister"
  | .invalidWidth _ => "InvalidWidth"
  | .addressOverflow => "AddressOverflow"

def message {fault : Type} (describe : fault → String) (error : AccessError fault) : String :=
  match error with
  | .bus fault => error.name ++ "(" ++ describe fault ++ ")"
  | .invalidRegister index subAddress length =>
      error.name ++ " \x7b id: 0x" ++ Text.hexadecimal 2 index.toNat ++
        ", sub_id: 0x" ++ Text.hexadecimal 4 subAddress.toNat ++
        ", len: " ++ toString length ++ " \x7d"
  | .invalidWidth width => error.name ++ " \x7b nbytes: " ++ toString width ++ " \x7d"
  | .addressOverflow => error.name

end AccessError

inductive CodecError
  | incomplete
  | badOffset (offset : Nat)
  deriving DecidableEq

def CodecError.message : CodecError → String
  | .incomplete => "Incomplete"
  | .badOffset offset => "BadOffset(" ++ toString offset ++ ")"

inductive Error (fault : Type)
  | bus (error : AccessError fault)
  | initializationFault (deviceId : UInt32)
  | transmitFault
  | receiveTimeout
  | receiveFault
  | requestTimeout
  | bufferTooSmall (requiredLength : Nat)
  | frame (error : CodecError)
  | tableResize (expected found : Nat)
  | tableCapacity (required : Nat)
  deriving DecidableEq

namespace Error

def name {fault : Type} : Error fault → String
  | .bus _ => "Bus"
  | .initializationFault _ => "InitializationFault"
  | .transmitFault => "TransmitFault"
  | .receiveTimeout => "ReceiveTimeout"
  | .receiveFault => "ReceiveFault"
  | .requestTimeout => "RequestTimeout"
  | .bufferTooSmall _ => "BufferTooSmall"
  | .frame _ => "Frame"
  | .tableResize _ _ => "TableResize"
  | .tableCapacity _ => "TableCapacity"

def message {fault : Type} (describe : fault → String) (error : Error fault) : String :=
  match error with
  | .bus cause => error.name ++ "(" ++ cause.message describe ++ ")"
  | .initializationFault deviceId =>
      error.name ++ " \x7b device_id: 0x" ++ Text.hexadecimal 8 deviceId.toNat ++ " \x7d"
  | .bufferTooSmall requiredLength =>
      error.name ++ " \x7b required_len: " ++ toString requiredLength ++ " \x7d"
  | .frame cause => error.name ++ "(" ++ cause.message ++ ")"
  | .tableResize expected found =>
      error.name ++ " \x7b expected: " ++ toString expected ++
        ", found: " ++ toString found ++ " \x7d"
  | .tableCapacity required =>
      error.name ++ " \x7b required: " ++ toString required ++ " \x7d"
  | .transmitFault | .receiveTimeout | .receiveFault | .requestTimeout => error.name

def isTransactionFault {fault : Type} : Error fault → Bool
  | .transmitFault | .receiveTimeout | .receiveFault | .requestTimeout => true
  | _ => false

end Error

end UwbRadio
