import UwbRadio.Error

/-!
The command header that opens every bus transaction: one to three bytes with the
direction, the register index and, where it is not zero, the sub-address.

`Command.header` writes it, `Command.decode?` reads it as the device does, and
`encodeHeader` refuses what the header has no room for.
-/

namespace UwbRadio

inductive Direction
  | read
  | write
  deriving DecidableEq

def maxRegisterIndex : UInt8 := 0x3f

/-- The end of the sub-addressable area of a register. -/
def maxSubAddress : Nat := 0x7fff

structure Command where
  direction : Direction
  index : UInt8
  subAddress : UInt16
  deriving DecidableEq

namespace Command

def directionBit (command : Command) : UInt8 :=
  match command.direction with
  | .read => 0x00
  | .write => 0x80

def lastShortSubAddress : UInt16 := 128

/-- The header bytes. The second byte holds the low seven bits of the
sub-address and, in bit 7, whether a third byte with the rest follows. -/
def header (command : Command) : Bytes :=
  let first := command.directionBit ||| (command.index &&& 0x3f)
  let low := command.subAddress.toUInt8 &&& 0x7f
  if command.subAddress = 0 then
    [first]
  else if command.subAddress ≤ lastShortSubAddress then
    [first ||| 0x40, low]
  else
    [first ||| 0x40, 0x80 ||| low, (command.subAddress >>> 7).toUInt8]

/-- Read a header as the device does; the second part is what follows it. -/
def decode? : Bytes → Option (Command × Bytes)
  | [] => none
  | first :: rest =>
      let direction := if first &&& 0x80 = 0 then Direction.read else Direction.write
      let index := first &&& 0x3f
      if first &&& 0x40 = 0 then
        some (⟨direction, index, 0⟩, rest)
      else
        match rest with
        | [] => none
        | low :: rest =>
            if low &&& 0x80 = 0 then
              some (⟨direction, index, low.toUInt16⟩, rest)
            else
              match rest with
              | [] => none
              | high :: rest =>
                  some (⟨direction, index,
                    (low &&& 0x7f).toUInt16 ||| (high.toUInt16 <<< 7)⟩, rest)

end Command

/-- The header of an access to `length` bytes. An index or an end of the access
that the header cannot carry is refused and never cut off. -/
def encodeHeader {fault : Type} (index : UInt8) (subAddress : UInt16) (length : Nat)
    (direction : Direction) : Except (AccessError fault) Bytes :=
  if index > maxRegisterIndex then
    .error (.invalidRegister index subAddress length)
  else if subAddress.toNat + length ≥ UInt64.size then
    .error .addressOverflow
  else if subAddress.toNat + length > maxSubAddress then
    .error (.invalidRegister index subAddress length)
  else
    .ok (Command.header ⟨direction, index, subAddress⟩)

end UwbRadio
