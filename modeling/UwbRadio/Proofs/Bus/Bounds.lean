import UwbRadio.Proofs.Bus.Reads

/-!
The bounds of register accesses. What does not fit its register or its header is refused
before anything goes over the bus. The sums that decide this are taken in machine words,
though, and overflow just where the access reaches farthest beyond its bounds.
-/

namespace UwbRadio

section encodeHeader

variable {fault : Type} {index : UInt8} {subAddress : UInt16} {length : Nat} {direction : Direction}

theorem encodeHeader_eq_overflow_iff :
    (encodeHeader index subAddress length direction : Except (AccessError fault) Bytes) =
        .error .addressOverflow ↔
      index ≤ maxRegisterIndex ∧ UInt64.size ≤ subAddress.toNat + length := by
  unfold encodeHeader
  split
  · rename_i tooHigh
    exact ⟨nofun, fun sum => absurd sum.1 (UInt8.not_le.mpr tooHigh)⟩
  · rename_i known
    split
    · rename_i overflows
      exact ⟨fun _ => ⟨UInt8.not_lt.mp known, overflows⟩, fun _ => rfl⟩
    · rename_i sums
      refine ⟨fun refused => ?_, fun sum => absurd sum.2 sums⟩
      split at refused <;> cases refused

theorem encodeHeader_eq_invalid_iff :
    (encodeHeader index subAddress length direction : Except (AccessError fault) Bytes) =
        .error (.invalidRegister index subAddress length) ↔
      maxRegisterIndex < index ∨
        maxSubAddress < subAddress.toNat + length ∧ subAddress.toNat + length < UInt64.size := by
  unfold encodeHeader
  split
  · rename_i tooHigh
    exact ⟨fun _ => .inl tooHigh, fun _ => rfl⟩
  · rename_i known
    split
    · rename_i overflows
      refine ⟨nofun, ?_⟩
      rintro (tooHigh | ⟨_, sums⟩)
      · exact absurd tooHigh known
      · exact absurd sums (Nat.not_lt.mpr overflows)
    · rename_i sums
      split
      · rename_i beyond
        exact ⟨fun _ => .inr ⟨beyond, Nat.lt_of_not_le sums⟩, fun _ => rfl⟩
      · rename_i inside
        refine ⟨nofun, ?_⟩
        rintro (tooHigh | ⟨beyond, _⟩)
        · exact absurd tooHigh known
        · exact absurd beyond inside

end encodeHeader

namespace Register

open RegisterOperation

/-- All of the register can be addressed by a header. -/
structure Addressable (register : Register) : Prop where
  known : register.index ≤ maxRegisterIndex
  inside : register.subAddress.toNat + register.width ≤ maxSubAddress

instance (register : Register) : Decidable register.Addressable :=
  decidable_of_iff (register.index ≤ maxRegisterIndex ∧
      register.subAddress.toNat + register.width ≤ maxSubAddress)
    ⟨fun ⟨known, inside⟩ => ⟨known, inside⟩, fun whole => ⟨whole.known, whole.inside⟩⟩

theorem addressable_of_mem {register : Register} (listed : register ∈ all) :
    register.Addressable := by
  have every : ∀ register ∈ all, register.Addressable := by decide
  exact every register listed

variable {register : Register} {offset : UInt16} {length : Nat}

theorem Addressable.subAddress_add (whole : register.Addressable)
    (fits : offset.toNat + length ≤ register.width) :
    (register.subAddress + offset).toNat = register.subAddress.toNat + offset.toNat := by
  have inside := whole.inside
  have limit : maxSubAddress = 32767 := rfl
  rw [UInt16.toNat_add]
  exact Nat.mod_eq_of_lt (by omega)

def partHeader (register : Register) (offset : UInt16) (direction : Direction) : Bytes :=
  Command.header ⟨direction, register.index, register.subAddress + offset⟩

def refusal {fault : Type} (register : Register) (offset : UInt16) (length : Nat) :
    AccessError fault :=
  if register.subAddress.toNat + offset.toNat < 2 ^ 16 then
    .invalidRegister register.index (register.subAddress + offset) length
  else
    .addressOverflow

theorem part_beyond {fault : Type} (beyond : register.width < offset.toNat + length) :
    (register.part offset length : Except (AccessError fault) UInt16) =
      .error (register.refusal offset length) := by
  have word : UInt16.size = 2 ^ 16 := rfl
  unfold part refusal
  rw [word]
  by_cases sums : register.subAddress.toNat + offset.toNat < 2 ^ 16
  · rw [if_neg (Nat.not_le.mpr sums), if_pos beyond, if_pos sums]
  · rw [if_pos (Nat.le_of_not_lt sums), if_neg sums]

theorem Addressable.part_inside {fault : Type} (whole : register.Addressable)
    (fits : offset.toNat + length ≤ register.width) :
    (register.part offset length : Except (AccessError fault) UInt16) =
      .ok (register.subAddress + offset) := by
  have inside := whole.inside
  have limit : maxSubAddress = 32767 := rfl
  have word : UInt16.size = 65536 := rfl
  rw [part, if_neg (by omega), if_neg (by omega)]

theorem Addressable.encodeHeader_inside {fault : Type} (whole : register.Addressable)
    (fits : offset.toNat + length ≤ register.width) (direction : Direction) :
    (encodeHeader register.index (register.subAddress + offset) length direction :
        Except (AccessError fault) Bytes) = .ok (register.partHeader offset direction) := by
  have inside := whole.inside
  refine encodeHeader_eq_ok_iff.mpr ⟨whole.known, ?_, rfl⟩
  rw [whole.subAddress_add fits]
  omega

theorem Addressable.access_eq {α : Type} (whole : register.Addressable) (direction : Direction)
    (transfer : Bytes → RegisterOperation α) :
    (Operation.ofExcept (register.part offset length) >>= fun subAddress =>
        Operation.ofExcept (encodeHeader register.index subAddress length direction) >>= transfer) =
      if offset.toNat + length ≤ register.width then
        transfer (register.partHeader offset direction)
      else
        Operation.ofExcept (.error (register.refusal offset length)) := by
  split
  · rename_i fits
    rw [whole.part_inside fits]
    change Operation.ofExcept (encodeHeader register.index (register.subAddress + offset) length
      direction) >>= transfer = _
    rw [whole.encodeHeader_inside fits]
    rfl
  · rename_i beyond
    rw [part_beyond (Nat.lt_of_not_le beyond)]
    rfl

theorem readPart_eq (whole : register.Addressable) (offset : UInt16) (length : Nat) :
    register.readPart offset length =
      if offset.toNat + length ≤ register.width then
        Operation.ofBus (Bus.read (register.partHeader offset .read) length)
      else
        Operation.ofExcept (.error (register.refusal offset length)) :=
  whole.access_eq .read fun header => Operation.ofBus (Bus.read header length)

theorem writePart_eq (whole : register.Addressable) (offset : UInt16) (data : Bytes) :
    register.writePart offset data =
      if offset.toNat + data.length ≤ register.width then
        Operation.ofBus (Bus.write (register.partHeader offset .write) data)
      else
        Operation.ofExcept (.error (register.refusal offset data.length)) :=
  whole.access_eq .write fun header => Operation.ofBus (Bus.write header data)

theorem Addressable.decode?_partHeader (whole : register.Addressable)
    (fits : offset.toNat + length ≤ register.width) (direction : Direction) :
    Command.decode? (register.partHeader offset direction) =
      some (⟨direction, register.index, if register.subAddress + offset = 128 then 0
        else register.subAddress + offset⟩, []) := by
  have inside := whole.inside
  have within : (register.subAddress + offset).toNat ≤ maxSubAddress := by
    rw [whole.subAddress_add fits]
    omega
  have known : (⟨direction, register.index, register.subAddress + offset⟩ : Command).index ≤
      maxRegisterIndex := whole.known
  exact Command.decode?_whole known within

end Register

/-- Headers are made exactly for what they have room for, and a part of a register of the
map is accessed in exactly one transfer if it lies inside the register. All else is refused
with what was asked for and without a transfer, except where a sum overflows: that of the
sub-address and a length near the end of the machine word, and that of a register's
sub-address and an offset near the end of sixteen bits. -/
theorem refused_unless_sum_overflows {fault : Type} (index : UInt8) (subAddress : UInt16)
    (length : UInt64) (direction : Direction) {register : Register}
    (listed : register ∈ Register.all) (offset : UInt16) (count : Nat) :
    let encoded : Except (AccessError fault) Bytes :=
      encodeHeader index subAddress length.toNat direction
    (((∃ header, encoded = .ok header) ↔
        index ≤ 0x3f ∧ subAddress.toNat + length.toNat ≤ 0x7fff) ∧
      (encoded = .error (.invalidRegister index subAddress length.toNat) ↔
        0x3f < index ∨ 0x7fff < subAddress.toNat + length.toNat ∧
          subAddress.toNat + length.toNat < 2 ^ 64) ∧
      (encoded = .error .addressOverflow ↔
        index ≤ 0x3f ∧ 2 ^ 64 ≤ subAddress.toNat + length.toNat)) ∧
    (count < 2 ^ 63 → offset.toNat + count < 2 ^ 64) ∧
    (offset.toNat + count ≤ register.width →
      (register.subAddress + offset).toNat = register.subAddress.toNat + offset.toNat ∧
      (∀ direction, Command.decode? (register.partHeader offset direction) =
        some (⟨direction, register.index, if register.subAddress + offset = 128 then 0
          else register.subAddress + offset⟩, [])) ∧
      register.readPart offset count =
        Operation.ofBus (Bus.read (register.partHeader offset .read) count) ∧
      ∀ data : Bytes, data.length = count → register.writePart offset data =
        Operation.ofBus (Bus.write (register.partHeader offset .write) data)) ∧
    (register.width < offset.toNat + count → ∀ bus,
      let refused : AccessError BusFault :=
        if register.subAddress.toNat + offset.toNat < 2 ^ 16 then
          .invalidRegister register.index (register.subAddress + offset) count
        else
          .addressOverflow
      (register.readPart offset count).perform bus = (.error refused, bus) ∧
      ∀ data : Bytes, data.length = count →
        (register.writePart offset data).perform bus = (.error refused, bus)) := by
  have whole := Register.addressable_of_mem listed
  refine ⟨⟨?_, encodeHeader_eq_invalid_iff, encodeHeader_eq_overflow_iff⟩, ?_, ?_, ?_⟩
  · constructor
    · rintro ⟨header, made⟩
      obtain ⟨known, inside, _⟩ := encodeHeader_eq_ok_iff.mp made
      exact ⟨known, inside⟩
    · rintro ⟨known, inside⟩
      exact ⟨_, encodeHeader_eq_ok_iff.mpr ⟨known, inside, rfl⟩⟩
  · intro short
    have bound : offset.toNat < 2 ^ 16 := offset.toNat_lt
    omega
  · intro fits
    refine ⟨whole.subAddress_add fits, whole.decode?_partHeader fits, ?_, ?_⟩
    · rw [Register.readPart_eq whole, if_pos fits]
    · rintro data rfl
      rw [Register.writePart_eq whole, if_pos fits]
  · intro beyond bus
    refine ⟨?_, ?_⟩
    · rw [Register.readPart_eq whole, if_neg (Nat.not_le.mpr beyond)]
      rfl
    · rintro data rfl
      rw [Register.writePart_eq whole, if_neg (Nat.not_le.mpr beyond)]
      rfl

/-- The highest address has a header and the last byte of the transmit buffer is written; the
greatest length and the farthest offset for which no sum overflows are refused. -/
theorem accesses_at_the_bounds :
    (∃ header, (encodeHeader 0x3f 0x7ffe 1 .write : Except (AccessError BusFault) Bytes) =
      .ok header) ∧
    (encodeHeader 0 1 (2 ^ 64 - 2) .read : Except (AccessError BusFault) Bytes) =
      .error (.invalidRegister 0 1 (2 ^ 64 - 2)) ∧
    Register.transmitBuffer ∈ Register.all ∧
    Register.transmitBuffer.writePart 1023 [7] =
      Operation.ofBus (Bus.write [0xc9, 0xff, 0x07] [7]) ∧
    Register.softReset ∈ Register.all ∧
    (Register.softReset.readPart 0xfffc 1).perform {} =
      (.error (.invalidRegister 0x36 0xffff 1), {}) := by
  have buffer : Register.transmitBuffer ∈ Register.all := by decide
  have reset : Register.softReset ∈ Register.all := by decide
  obtain ⟨⟨made, _, _⟩, _, inside, _⟩ :=
    @refused_unless_sum_overflows BusFault 0x3f 0x7ffe 1 .write _ buffer 1023 1
  obtain ⟨_, _, _, written⟩ := inside (by decide)
  obtain ⟨⟨_, long, _⟩, _, _, beyond⟩ :=
    @refused_unless_sum_overflows BusFault 0 1 0xfffffffffffffffe .read _ reset 0xfffc 1
  obtain ⟨refused, _⟩ := beyond (by decide) {}
  exact ⟨made.mpr ⟨by decide, by decide⟩, long.mpr (.inr ⟨by decide, by decide⟩), buffer,
    written [7] rfl, reset, refused⟩

/-- Accesses that were to be refused as invalid overflow instead. -/
theorem sums_of_far_accesses_overflow :
    (encodeHeader 0 1 (2 ^ 64 - 1) .read : Except (AccessError BusFault) Bytes) =
      .error .addressOverflow ∧
    Register.sequencerControl ∈ Register.all ∧
    Register.sequencerControl.width < (0xfffc : UInt16).toNat + 1 ∧
    (Register.sequencerControl.readPart 0xfffc 1).perform {} = (.error .addressOverflow, {}) ∧
    (Register.sequencerControl.writePart 0xfffc [7]).perform {} =
      (.error .addressOverflow, {}) :=
  ⟨encodeHeader_eq_overflow_iff.mpr ⟨by decide, by decide⟩, by decide, by decide, rfl, rfl⟩

end UwbRadio
