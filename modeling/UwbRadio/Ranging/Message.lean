import UwbRadio.Error

/-!
Ranging messages, the payload of a ranging frame: a code, the addresses of the
master and of the two nodes that range, and the measured time of flight. A message
takes eleven bytes.

Messages are written and read at an offset in a larger byte string. A message that
does not fit is written as far as its fields fit.
-/

namespace UwbRadio.Ranging

structure Message where
  code : UInt8
  master : UInt16
  first : UInt16
  second : UInt16
  timeOfFlight : UInt32
  deriving DecidableEq

namespace Message

def requestCode : UInt8 := 0x11

def responseCode : UInt8 := 0x12

def length : Nat := 11

def request (master first second : UInt16) : Message :=
  ⟨requestCode, master, first, second, 0⟩

def fields (message : Message) : List (Nat × Nat) :=
  [(1, message.code.toNat), (2, message.master.toNat), (2, message.first.toNat),
    (2, message.second.toNat), (4, message.timeOfFlight.toNat)]

/-- The fields up to the first that does not fit `room`, and whether all did. -/
def encodeFields (order : ByteOrder) : List (Nat × Nat) → Nat → Bytes × Bool
  | [], _ => ([], true)
  | (width, value) :: rest, room =>
      if width ≤ room then
        let (bytes, complete) := encodeFields order rest (room - width)
        (order.encode width value ++ bytes, complete)
      else
        ([], false)

def write (message : Message) (order : ByteOrder) (buffer : Bytes) (offset : Nat) :
    Except CodecError Nat × Bytes :=
  if offset > buffer.length then
    (.error (.badOffset offset), buffer)
  else
    let (bytes, complete) := encodeFields order message.fields (buffer.length - offset)
    let result := if complete then .ok (offset + bytes.length) else .error .incomplete
    (result, Bytes.overwrite buffer offset bytes)

def encode (message : Message) (order : ByteOrder) : Bytes :=
  message.fields.flatMap fun (width, value) => order.encode width value

def decode (order : ByteOrder) (bytes : Bytes) : Message :=
  let field := fun (start width : Nat) => order.decode ((bytes.drop start).take width)
  { code := UInt8.ofNat (field 0 1)
    master := UInt16.ofNat (field 1 2)
    first := UInt16.ofNat (field 3 2)
    second := UInt16.ofNat (field 5 2)
    timeOfFlight := UInt32.ofNat (field 7 4) }

def read (order : ByteOrder) (bytes : Bytes) (offset : Nat) : Except CodecError (Message × Nat) :=
  if offset > bytes.length then
    .error (.badOffset offset)
  else if bytes.length - offset < length then
    .error .incomplete
  else
    .ok (decode order (bytes.drop offset), offset + length)

end Message

end UwbRadio.Ranging
