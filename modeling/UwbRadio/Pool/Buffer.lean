import UwbRadio.Bytes

/-!
A buffer of fixed size whose first bytes are valid. What lies behind them is
whatever was there before.
-/

namespace UwbRadio

structure Buffer (size : Nat) where
  data : Bytes
  used : Nat
  dataLength : data.length = size
  usedBound : used ≤ size

namespace Buffer

variable {size : Nat}

def empty (size : Nat) : Buffer size :=
  ⟨List.replicate size 0, 0, List.length_replicate, Nat.zero_le size⟩

def contents (buffer : Buffer size) : Bytes :=
  buffer.data.take buffer.used

def claim? (buffer : Buffer size) (length : Nat) : Option (Buffer size) :=
  if fits : length ≤ size then
    some { buffer with used := length, usedBound := fits }
  else
    none

/-- Put `bytes` at the start of the valid bytes; what does not fit there is left out. -/
def load (buffer : Buffer size) (bytes : Bytes) : Buffer size :=
  { buffer with
    data := Bytes.overwrite buffer.data 0 (bytes.take buffer.used)
    dataLength := by
      rw [Bytes.overwrite_length, buffer.dataLength]
      have bound := buffer.usedBound
      rw [List.length_take, buffer.dataLength]
      omega }

def advance (buffer : Buffer size) (count : Nat) : Buffer size :=
  let moved := (buffer.data.take buffer.used).drop count
  { data := Bytes.overwrite buffer.data 0 moved
    used := buffer.used - count
    dataLength := by
      rw [Bytes.overwrite_length, buffer.dataLength]
      simp only [moved, List.length_drop, List.length_take]
      omega
    usedBound := Nat.le_trans (Nat.sub_le _ _) buffer.usedBound }

def copyTo (buffer : Buffer size) (capacity : Nat) : Bytes :=
  buffer.contents.take capacity

theorem contents_length (buffer : Buffer size) : buffer.contents.length = buffer.used := by
  have bound := buffer.usedBound
  rw [contents, List.length_take, buffer.dataLength]
  omega

end Buffer

end UwbRadio
