import Mathlib.Data.Nat.Bitwise
import UwbRadio.Proofs.Bytes
import UwbRadio.Register.File

/-!
The registers as bytes and as values. A read gives what was stored, byte by byte, a
write to one register is not seen in another, and a write to the event status clears
the bits that it has set and no others.
-/

namespace UwbRadio

theorem Bytes.testBit_fromLittleEndian (bytes : Bytes) (index : Nat) :
    (fromLittleEndian bytes).testBit index =
      (bytes.getD (index / 8) 0).toNat.testBit (index % 8) := by
  induction bytes generalizing index with
  | nil => simp [fromLittleEndian]
  | cons byte rest ih =>
      have low : byte.toNat < 2 ^ 8 := byte.toNat_lt
      have split : fromLittleEndian (byte :: rest) =
          2 ^ 8 * fromLittleEndian rest + byte.toNat := by
        rw [fromLittleEndian]
        omega
      rw [split, Nat.testBit_two_pow_mul_add _ low]
      by_cases first : index < 8
      · rw [if_pos first, Nat.div_eq_of_lt first, Nat.mod_eq_of_lt first]
        rfl
      · obtain ⟨later, rfl⟩ := Nat.exists_eq_add_of_le (Nat.le_of_not_lt first)
        rw [if_neg first, Nat.add_sub_cancel_left, ih, Nat.add_mod_left,
          Nat.add_div_left _ (by decide)]
        rfl

theorem Bytes.getD_overwrite {target : Bytes} {offset : Nat} (reached : offset ≤ target.length)
    (data : Bytes) (place : Nat) :
    (overwrite target offset data).getD place 0 =
      if offset ≤ place ∧ place < offset + data.length then data.getD (place - offset) 0
      else target.getD place 0 := by
  have front : (target.take offset).length = offset := by
    rw [List.length_take, Nat.min_eq_left reached]
  simp only [overwrite, List.getD_eq_getElem?_getD, List.append_assoc]
  by_cases before : place < offset
  · rw [if_neg (by omega), List.getElem?_append_left (by omega), List.getElem?_take_of_lt before]
  · rw [List.getElem?_append_right (by omega), front]
    by_cases inside : place < offset + data.length
    · rw [if_pos (by omega), List.getElem?_append_left (by omega)]
    · rw [if_neg (by omega), List.getElem?_append_right (by omega), List.getElem?_drop]
      congr 3
      omega

namespace RegisterFile

def value (file : RegisterFile) (register : Register) : UInt64 :=
  UInt64.ofNat (Bytes.fromLittleEndian
    (file.read register.index register.subAddress.toNat register.width))

theorem read_length (file : RegisterFile) (index : UInt8) (address length : Nat) :
    (file.read index address length).length = length := by
  rw [read, padded, List.length_append, List.length_replicate, List.length_take]
  omega

theorem read_getD (file : RegisterFile) (index : UInt8) (address : Nat) {length place : Nat}
    (inside : place < length) :
    (file.read index address length).getD place 0 = file.byte index (address + place) := by
  rw [read, padded, byte, List.getD_eq_getElem?_getD, List.getD_eq_getElem?_getD,
    List.getElem?_append]
  split
  · rw [List.getElem?_take, if_pos inside, List.getElem?_drop]
  · rename_i beyond
    rw [List.length_take, List.length_drop] at beyond
    have absent : (file.block index)[address + place]? = none :=
      List.getElem?_eq_none (by omega)
    rw [absent, List.getElem?_replicate]
    split <;> rfl

theorem read_write_other (file : RegisterFile) {index other : UInt8} (address : Nat) (data : Bytes)
    (apart : other ≠ index) (start length : Nat) :
    (file.write index address data).read other start length = file.read other start length := by
  unfold write
  split <;> rw [read, store, block_withBlock_other _ _ apart, read]

theorem getD_padded (bytes : Bytes) (length place : Nat) :
    (padded bytes length).getD place 0 = bytes.getD place 0 := by
  rw [padded, List.getD_eq_getElem?_getD, List.getD_eq_getElem?_getD, List.getElem?_append]
  split
  · rfl
  · rename_i beyond
    rw [List.getElem?_eq_none (Nat.le_of_not_lt beyond), List.getElem?_replicate]
    split <;> rfl

theorem byte_store (file : RegisterFile) (index : UInt8) (address : Nat) (data : Bytes)
    (place : Nat) :
    (file.store index address data).byte index place =
      if address ≤ place ∧ place < address + data.length then data.getD (place - address) 0
      else file.byte index place := by
  have reached : address ≤ (padded (file.block index) address).length := by
    rw [padded, List.length_append, List.length_replicate]
    omega
  rw [byte, store, block_withBlock, Bytes.getD_overwrite reached, getD_padded, byte]

theorem byte_write_status (file : RegisterFile) (address : Nat) (data : Bytes) (place : Nat) :
    (file.write Register.systemStatus.index address data).byte Register.systemStatus.index place =
      file.byte Register.systemStatus.index place &&&
        ~~~(if address ≤ place then data.getD (place - address) 0 else 0) := by
  have measured := file.read_length Register.systemStatus.index address data.length
  rw [write, if_pos rfl, byte_store, List.length_zipWith, measured, Nat.min_self]
  by_cases inside : address ≤ place ∧ place < address + data.length
  · have within : place - address < data.length := by omega
    have old := file.read_getD Register.systemStatus.index address within
    rw [Nat.add_sub_cancel' inside.1] at old
    rw [if_pos inside, if_pos inside.1, ← old, List.getD_eq_getElem?_getD, List.getElem?_zipWith,
      List.getD_eq_getElem?_getD, List.getD_eq_getElem?_getD,
      List.getElem?_eq_getElem (by rw [measured]; exact within), List.getElem?_eq_getElem within]
    rfl
  · have untouched : (if address ≤ place then data.getD (place - address) 0 else 0) = 0 := by
      split
      · rename_i reached
        rw [List.getD_eq_getElem?_getD, List.getElem?_eq_none (by omega)]
        rfl
      · rfl
    rw [if_neg inside, untouched]
    exact (UInt8.and_neg_one).symm

theorem testBit_status (file : RegisterFile) (bit : Nat) :
    (file.value Register.systemStatus).toNat.testBit bit =
      (decide (bit < 32) &&
        (file.byte Register.systemStatus.index (bit / 8)).toNat.testBit (bit % 8)) := by
  have bound := Bytes.fromLittleEndian_lt (file.read Register.systemStatus.index 0 4)
  rw [file.read_length] at bound
  have number : (file.value Register.systemStatus).toNat =
      Bytes.fromLittleEndian (file.read Register.systemStatus.index 0 4) := by
    rw [value, UInt64.toNat_ofNat']
    exact Nat.mod_eq_of_lt (Nat.lt_of_lt_of_le bound (by decide))
  rw [number]
  by_cases inside : bit < 32
  · have byte := file.read_getD Register.systemStatus.index 0
      (Nat.div_lt_of_lt_mul inside : bit / 8 < 4)
    rw [Bytes.testBit_fromLittleEndian, byte, Nat.zero_add, decide_eq_true inside, Bool.true_and]
  · rw [decide_eq_false inside, Bool.false_and]
    apply Nat.testBit_lt_two_pow
    have wide : 2 ^ 32 ≤ 2 ^ bit := Nat.pow_le_pow_right (by decide) (Nat.le_of_not_lt inside)
    exact Nat.lt_of_lt_of_le bound wide

theorem testBit_status_of_write {file : RegisterFile} {index : UInt8} {address : Nat}
    {data : Bytes} {bit : Nat}
    (shown : ((file.write index address data).value Register.systemStatus).toNat.testBit bit =
      true) : (file.value Register.systemStatus).toNat.testBit bit = true := by
  by_cases same : index = Register.systemStatus.index
  · subst same
    rw [testBit_status, byte_write_status, UInt8.toNat_and, Nat.testBit_and] at shown
    rw [testBit_status]
    simp only [Bool.and_eq_true] at shown ⊢
    exact ⟨shown.1, shown.2.1⟩
  · rw [value, read_write_other _ _ _ (fun equal => same equal.symm)] at shown
    exact shown

theorem testBit_not (byte : UInt8) {bit : Nat} (inside : bit < 8) :
    (~~~byte).toNat.testBit bit = !byte.toNat.testBit bit := by
  have flipped : (~~~byte).toBitVec.getLsbD bit = !byte.toBitVec.getLsbD bit := by
    simp [inside]
  exact flipped

theorem testBit_cleared (status cleared : UInt64) (bit : Nat) :
    (status &&& ~~~cleared).toNat.testBit bit =
      (status.toNat.testBit bit && !cleared.toNat.testBit bit) := by
  have left : (status &&& ~~~cleared).toBitVec.getLsbD bit =
      (status.toBitVec.getLsbD bit && !cleared.toBitVec.getLsbD bit) := by
    by_cases inside : bit < 64
    · simp [inside]
    · simp [BitVec.getLsbD_of_ge _ bit (Nat.le_of_not_lt inside)]
  exact left

theorem status_of_write (file : RegisterFile) (cleared : UInt64) :
    (file.write Register.systemStatus.index 0 (Bytes.littleEndian 4 cleared.toNat)).value
        Register.systemStatus =
      file.value Register.systemStatus &&& ~~~cleared := by
  apply UInt64.toNat_inj.mp
  apply Nat.eq_of_testBit_eq
  intro bit
  have data := Bytes.testBit_fromLittleEndian (Bytes.littleEndian 4 cleared.toNat) bit
  rw [Bytes.fromLittleEndian_littleEndian, show 256 ^ 4 = 2 ^ 32 from rfl, Nat.testBit_mod_two_pow]
    at data
  rw [testBit_cleared, testBit_status, testBit_status, byte_write_status,
    if_pos (Nat.zero_le _), Nat.sub_zero, UInt8.toNat_and, Nat.testBit_and,
    testBit_not _ (Nat.mod_lt _ (by decide)), ← data]
  by_cases inside : bit < 32
  · simp [inside]
  · simp [inside]

end RegisterFile

end UwbRadio
