/-!
Byte strings and fixed-width numbers in them.

`littleEndian` writes a number into a given count of bytes, least significant
first, and `fromLittleEndian` reads one back. A number too large for its bytes
loses its upper part; every byte string is the encoding of what it reads as.
-/

namespace UwbRadio

abbrev Bytes := List UInt8

namespace Bytes

def littleEndian : Nat → Nat → Bytes
  | 0, _ => []
  | width + 1, value =>
      UInt8.ofNat (value % 256) :: littleEndian width (value / 256)

def fromLittleEndian : Bytes → Nat
  | [] => 0
  | byte :: rest => byte.toNat + 256 * fromLittleEndian rest

@[simp] theorem littleEndian_length (width value : Nat) :
    (littleEndian width value).length = width := by
  induction width generalizing value with
  | zero => rfl
  | succ width ih => simp only [littleEndian, List.length_cons, ih]

/-- `target` with `data` laid over it from `offset` on. -/
def overwrite (target : Bytes) (offset : Nat) (data : Bytes) : Bytes :=
  target.take offset ++ data ++ target.drop (offset + data.length)

theorem overwrite_length (target : Bytes) (offset : Nat) (data : Bytes)
    (room : offset + data.length ≤ target.length) :
    (overwrite target offset data).length = target.length := by
  simp only [overwrite, List.length_append, List.length_take, List.length_drop]
  omega

end Bytes

inductive ByteOrder
  | little
  | big
  deriving DecidableEq

namespace ByteOrder

def encode (order : ByteOrder) (width value : Nat) : Bytes :=
  match order with
  | .little => Bytes.littleEndian width value
  | .big => (Bytes.littleEndian width value).reverse

def decode (order : ByteOrder) (bytes : Bytes) : Nat :=
  match order with
  | .little => Bytes.fromLittleEndian bytes
  | .big => Bytes.fromLittleEndian bytes.reverse

@[simp] theorem encode_length (order : ByteOrder) (width value : Nat) :
    (order.encode width value).length = width := by
  cases order <;> simp [encode]

end ByteOrder

end UwbRadio
