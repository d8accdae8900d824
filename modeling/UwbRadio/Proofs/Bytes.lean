import Mathlib.Algebra.Order.Ring.Nat
import UwbRadio.Bytes

/-!
Fixed-width numbers survive being written into bytes and read back, up to the part
that their bytes have no room for, and byte strings survive being read. Bytes laid over
others replace just those.
-/

namespace UwbRadio

namespace Bytes

theorem fromLittleEndian_littleEndian (width value : Nat) :
    fromLittleEndian (littleEndian width value) = value % 256 ^ width := by
  induction width generalizing value with
  | zero => simp only [littleEndian, fromLittleEndian, Nat.pow_zero, Nat.mod_one]
  | succ width ih =>
      have low : (UInt8.ofNat (value % 256)).toNat = value % 256 := by
        rw [UInt8.toNat_ofNat']
        exact Nat.mod_eq_of_lt (Nat.mod_lt value (by decide))
      rw [littleEndian, fromLittleEndian, ih, low, Nat.pow_succ', Nat.mod_mul]

theorem littleEndian_mod (width value : Nat) :
    littleEndian width (value % 256 ^ width) = littleEndian width value := by
  induction width generalizing value with
  | zero => rfl
  | succ width ih =>
      rw [littleEndian, littleEndian, Nat.pow_succ', Nat.mod_mul_right_mod,
        Nat.mod_mul_right_div_self, ih]

theorem fromLittleEndian_lt (bytes : Bytes) :
    fromLittleEndian bytes < 256 ^ bytes.length := by
  induction bytes with
  | nil => simp [fromLittleEndian]
  | cons byte rest ih =>
      have low : byte.toNat < 256 := byte.toNat_lt
      rw [fromLittleEndian, List.length_cons, Nat.pow_succ']
      omega

theorem littleEndian_fromLittleEndian (bytes : Bytes) :
    littleEndian bytes.length (fromLittleEndian bytes) = bytes := by
  induction bytes with
  | nil => rfl
  | cons byte rest ih =>
      have low : byte.toNat < 256 := byte.toNat_lt
      have head : (byte.toNat + 256 * fromLittleEndian rest) % 256 = byte.toNat := by omega
      have tail : (byte.toNat + 256 * fromLittleEndian rest) / 256 =
          fromLittleEndian rest := by omega
      rw [List.length_cons, littleEndian, fromLittleEndian, head, tail, ih,
        UInt8.ofNat_toNat]

/-- `after` is `before` with `data` in place of the bytes at `offset`. -/
structure Replaced (before after : Bytes) (offset : Nat) (data : Bytes) : Prop where
  length : after.length = before.length
  front : after.take offset = before.take offset
  inside : (after.drop offset).take data.length = data
  behind : after.drop (offset + data.length) = before.drop (offset + data.length)

theorem overwrite_nil (target : Bytes) (offset : Nat) : overwrite target offset [] = target := by
  rw [overwrite, List.append_nil, List.length_nil, Nat.add_zero, List.take_append_drop]

theorem overwrite_drop {target : Bytes} {offset : Nat} (reached : offset ≤ target.length)
    (data : Bytes) :
    (overwrite target offset data).drop offset =
      data ++ target.drop (offset + data.length) := by
  rw [overwrite, List.append_assoc, List.drop_left' (List.length_take_of_le reached)]

theorem overwrite_take {target : Bytes} {offset : Nat} (reached : offset ≤ target.length)
    (data : Bytes) : (overwrite target offset data).take offset = target.take offset := by
  rw [overwrite, List.append_assoc, List.take_left' (List.length_take_of_le reached)]

theorem overwrite_slice (target : Bytes) (offset width : Nat) :
    overwrite target offset ((target.drop offset).take width) = target := by
  have rest : target.drop (offset + ((target.drop offset).take width).length) =
      (target.drop offset).drop width := by
    rw [List.length_take, ← List.drop_drop, ← List.drop_eq_drop_min]
  rw [overwrite, rest, List.append_assoc, List.take_append_drop, List.take_append_drop]

theorem overwrite_overwrite {target first : Bytes} {offset : Nat}
    (room : offset + first.length ≤ target.length) (second : Bytes) :
    overwrite (overwrite target offset first) (offset + first.length) second =
      overwrite target offset (first ++ second) := by
  have reached : offset ≤ target.length := Nat.le_of_add_right_le room
  have measured : (target.take offset ++ first).length = offset + first.length := by
    rw [List.length_append, List.length_take_of_le reached]
  have front : (overwrite target offset first).take (offset + first.length) =
      target.take offset ++ first := by
    rw [overwrite, List.take_left' measured]
  have behind : (overwrite target offset first).drop (offset + first.length) =
      target.drop (offset + first.length) := by
    rw [overwrite, List.drop_left' measured]
  rw [overwrite, front, ← List.drop_drop, behind, List.drop_drop, overwrite,
    List.length_append, Nat.add_assoc, ← List.append_assoc (target.take offset)]

theorem replaced_overwrite {target : Bytes} {offset : Nat} {data : Bytes}
    (room : data.length ≤ target.length - offset) :
    Replaced target (overwrite target offset data) offset data := by
  by_cases reached : offset ≤ target.length
  · refine ⟨overwrite_length _ _ _ (by omega), overwrite_take reached data, ?_, ?_⟩
    · rw [overwrite_drop reached, List.take_left]
    · rw [← List.drop_drop, overwrite_drop reached, List.drop_left]
  · have empty : data = [] := List.eq_nil_of_length_eq_zero (by omega)
    subst empty
    rw [overwrite_nil]
    exact ⟨rfl, rfl, rfl, rfl⟩

end Bytes

namespace ByteOrder

theorem decode_encode (order : ByteOrder) (width value : Nat) :
    order.decode (order.encode width value) = value % 256 ^ width := by
  cases order <;> simp [encode, decode, Bytes.fromLittleEndian_littleEndian]

theorem encode_decode (order : ByteOrder) (bytes : Bytes) :
    order.encode bytes.length (order.decode bytes) = bytes := by
  cases order with
  | little => exact Bytes.littleEndian_fromLittleEndian bytes
  | big =>
      have reversed := Bytes.littleEndian_fromLittleEndian bytes.reverse
      rw [List.length_reverse] at reversed
      rw [encode, decode, reversed, List.reverse_reverse]

theorem decode_lt (order : ByteOrder) (bytes : Bytes) : order.decode bytes < 256 ^ bytes.length := by
  cases order with
  | little => exact Bytes.fromLittleEndian_lt bytes
  | big =>
      rw [← List.length_reverse]
      exact Bytes.fromLittleEndian_lt bytes.reverse

theorem encode_decode_mod (order : ByteOrder) {bytes : Bytes} {width : Nat}
    (measured : bytes.length = width) :
    order.encode width (order.decode bytes % 256 ^ width) = bytes := by
  subst measured
  rw [Nat.mod_eq_of_lt (order.decode_lt bytes), order.encode_decode]

end ByteOrder

end UwbRadio
