import UwbRadio.Bus

/-!
Access to registers over the bus: raw byte ranges, little-endian values of up to
eight bytes, and the registers of the map by name.

`Access` is a register access as data. A sequence of them can be carried out one
bus transaction at a time, which is what a call does that may be interrupted
between any two transactions.
-/

namespace UwbRadio

abbrev RegisterOperation := Operation (AccessError BusFault)

namespace RegisterOperation

def readBytes (index : UInt8) (subAddress : UInt16) (length : Nat) : RegisterOperation Bytes := do
  let header ← Operation.ofExcept (encodeHeader index subAddress length .read)
  Operation.ofBus (Bus.read header length)

def writeBytes (index : UInt8) (subAddress : UInt16) (data : Bytes) : RegisterOperation Unit := do
  let header ← Operation.ofExcept (encodeHeader index subAddress data.length .write)
  Operation.ofBus (Bus.write header data)

def maxWidth : Nat := 8

def readValue (index : UInt8) (subAddress : UInt16) (width : Nat) : RegisterOperation UInt64 :=
  if width > maxWidth then
    Operation.ofExcept (.error (.invalidWidth width))
  else do
    let bytes ← readBytes index subAddress width
    return UInt64.ofNat (Bytes.fromLittleEndian bytes)

def writeValue (index : UInt8) (subAddress : UInt16) (value : UInt64) (width : Nat) :
    RegisterOperation Unit :=
  if width > maxWidth then
    Operation.ofExcept (.error (.invalidWidth width))
  else
    writeBytes index subAddress (Bytes.littleEndian width value.toNat)

end RegisterOperation

namespace Register

open RegisterOperation

def read (register : Register) : RegisterOperation UInt64 :=
  readValue register.index register.subAddress register.width

def write (register : Register) (value : UInt64) : RegisterOperation Unit :=
  writeValue register.index register.subAddress value register.width

def modify (register : Register) (change : UInt64 → UInt64) : RegisterOperation Unit := do
  let value ← register.read
  register.write (change value)

/-- The sub-address `offset` bytes into the register, for an access to `length`
bytes. It has to stay inside the register. The address of a refused access is
still computed, in sixteen bits. -/
def part {fault : Type} (register : Register) (offset : UInt16) (length : Nat) :
    Except (AccessError fault) UInt16 :=
  if register.subAddress.toNat + offset.toNat ≥ UInt16.size then
    .error .addressOverflow
  else if offset.toNat + length > register.width then
    .error (.invalidRegister register.index (register.subAddress + offset) length)
  else
    .ok (register.subAddress + offset)

def readPart (register : Register) (offset : UInt16) (length : Nat) : RegisterOperation Bytes := do
  let subAddress ← Operation.ofExcept (register.part offset length)
  readBytes register.index subAddress length

def writePart (register : Register) (offset : UInt16) (data : Bytes) : RegisterOperation Unit := do
  let subAddress ← Operation.ofExcept (register.part offset data.length)
  writeBytes register.index subAddress data

end Register

inductive Access
  | write (register : Register) (value : UInt64)
  | load (register : Register) (data : Bytes)
  /-- Clear the bits outside `keep`, then set those of `set`. -/
  | modify (register : Register) (keep set : UInt64)
  deriving DecidableEq

namespace Access

def start : Access → RegisterOperation (Option Access)
  | .write register value => do
      register.write value
      return none
  | .load register data => do
      register.writePart 0 data
      return none
  | .modify register keep set => do
      let value ← register.read
      return some (.write register (value &&& keep ||| set))

def advance : List Access → RegisterOperation (List Access)
  | [] => return []
  | access :: rest => do
      let remaining ← access.start
      return remaining.toList ++ rest

end Access

end UwbRadio
