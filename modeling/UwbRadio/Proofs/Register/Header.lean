import Mathlib.Algebra.Order.Ring.Nat
import UwbRadio.Bus

/-!
What the device reads out of a command header: the command that was written, with all
of the header and nothing behind it, but for one sub-address. 128 is written in two
bytes, of which the second has room for seven bits, so the device reads 0.
-/

namespace UwbRadio

theorem forall_index (holds : UInt8 → Prop) (all : ∀ low : Fin 64, holds (UInt8.ofNat low))
    (index : UInt8) (known : index ≤ maxRegisterIndex) : holds index := by
  have bound : index.toNat < 64 := by
    have below := UInt8.le_iff_toNat_le.mp known
    have limit : maxRegisterIndex.toNat = 63 := rfl
    omega
  have found := all ⟨index.toNat, bound⟩
  rw [UInt8.ofNat_toNat] at found
  exact found

theorem encodeHeader_eq_ok_iff {fault : Type} {index : UInt8} {subAddress : UInt16}
    {length : Nat} {direction : Direction} {header : Bytes} :
    (encodeHeader index subAddress length direction : Except (AccessError fault) Bytes) =
        .ok header ↔
      index ≤ maxRegisterIndex ∧ subAddress.toNat + length ≤ maxSubAddress ∧
        header = Command.header ⟨direction, index, subAddress⟩ := by
  have limit : maxSubAddress = 32767 := rfl
  have word : UInt64.size = 18446744073709551616 := rfl
  unfold encodeHeader
  split
  · rename_i tooHigh
    exact ⟨nofun, fun fits => absurd fits.1 (UInt8.not_le.mpr tooHigh)⟩
  · rename_i known
    split
    · rename_i overflows
      exact ⟨nofun, fun fits => by omega⟩
    · split
      · rename_i beyond
        exact ⟨nofun, fun fits => absurd fits.2.1 (Nat.not_le.mpr beyond)⟩
      · rename_i inside
        rw [Except.ok.injEq]
        constructor
        · intro same
          exact ⟨UInt8.not_lt.mp known, Nat.not_lt.mp inside, same.symm⟩
        · intro fits
          exact fits.2.2.symm

namespace Command

/-- A first byte tells the direction, the index and whether a sub-address follows. -/
def Tells (direction : Direction) (index first : UInt8) (addressed : Bool) : Prop :=
  (if first &&& 0x80 = 0 then Direction.read else .write) = direction ∧
    first &&& 0x3f = index ∧ (first &&& 0x40 = 0 ↔ addressed = false)

instance (direction : Direction) (index first : UInt8) (addressed : Bool) :
    Decidable (Tells direction index first addressed) :=
  inferInstanceAs (Decidable (_ ∧ _ ∧ (_ ↔ _)))

theorem tells_plain {command : Command} (known : command.index ≤ maxRegisterIndex) :
    Tells command.direction command.index (command.directionBit ||| (command.index &&& 0x3f))
      false := by
  obtain ⟨direction, index, subAddress⟩ := command
  cases direction with
  | read =>
      exact forall_index (fun index => Tells .read index (0x00 ||| (index &&& 0x3f)) false)
        (by decide) index known
  | write =>
      exact forall_index (fun index => Tells .write index (0x80 ||| (index &&& 0x3f)) false)
        (by decide) index known

theorem tells_marked {command : Command} (known : command.index ≤ maxRegisterIndex) :
    Tells command.direction command.index
      (command.directionBit ||| (command.index &&& 0x3f) ||| 0x40) true := by
  obtain ⟨direction, index, subAddress⟩ := command
  cases direction with
  | read =>
      exact forall_index (fun index => Tells .read index (0x00 ||| (index &&& 0x3f) ||| 0x40) true)
        (by decide) index known
  | write =>
      exact forall_index (fun index => Tells .write index (0x80 ||| (index &&& 0x3f) ||| 0x40) true)
        (by decide) index known

section decode?

variable {direction : Direction} {index first low : UInt8}

theorem decode?_plain (tells : Tells direction index first false) (rest : Bytes) :
    decode? (first :: rest) = some (⟨direction, index, 0⟩, rest) := by
  obtain ⟨directed, indexed, unaddressed⟩ := tells
  unfold decode?
  dsimp only
  rw [directed, indexed, if_pos (unaddressed.mpr rfl)]

theorem decode?_short (tells : Tells direction index first true) (short : low &&& 0x80 = 0)
    (rest : Bytes) :
    decode? (first :: low :: rest) = some (⟨direction, index, low.toUInt16⟩, rest) := by
  obtain ⟨directed, indexed, addressed⟩ := tells
  unfold decode?
  dsimp only
  rw [directed, indexed, if_neg fun none => absurd (addressed.mp none) nofun, if_pos short]

theorem decode?_long (tells : Tells direction index first true) (long : low &&& 0x80 ≠ 0)
    (high : UInt8) (rest : Bytes) :
    decode? (first :: low :: high :: rest) =
      some (⟨direction, index, (low &&& 0x7f).toUInt16 ||| (high.toUInt16 <<< 7)⟩, rest) := by
  obtain ⟨directed, indexed, addressed⟩ := tells
  unfold decode?
  dsimp only
  rw [directed, indexed, if_neg fun none => absurd (addressed.mp none) nofun, if_neg long]

end decode?

private theorem seven_bits (byte : UInt8) : (byte &&& 0x7f).toNat = byte.toNat % 2 ^ 7 := by
  have mask : (0x7f : UInt8).toNat = 2 ^ 7 - 1 := rfl
  rw [UInt8.toNat_and, mask, Nat.and_two_pow_sub_one_eq_mod]

private theorem seven_bits_unmarked (byte : UInt8) : (byte &&& 0x7f) &&& 0x80 = 0 := by
  rw [UInt8.and_assoc]
  exact UInt8.and_zero

private theorem marked_and (byte mask : UInt8) :
    (0x80 ||| byte) &&& mask = (0x80 &&& mask) ||| (byte &&& mask) :=
  UInt8.toBitVec_inj.mp BitVec.and_or_distrib_right

private theorem seven_bits_marked (byte : UInt8) :
    (0x80 ||| (byte &&& 0x7f)) &&& 0x80 ≠ 0 ∧
      (0x80 ||| (byte &&& 0x7f)) &&& 0x7f = byte &&& 0x7f := by
  have none : (0x80 : UInt8) &&& 0x7f = 0 := rfl
  constructor
  · rw [marked_and, seven_bits_unmarked, UInt8.or_zero]
    decide
  · rw [marked_and, none, UInt8.zero_or, UInt8.and_assoc]
    rfl

theorem short_subAddress {subAddress : UInt16} (short : subAddress < lastShortSubAddress) :
    (subAddress.toUInt8 &&& 0x7f).toUInt16 = subAddress := by
  have bound : subAddress.toNat < 128 := UInt16.lt_iff_toNat_lt.mp short
  apply UInt16.toNat_inj.mp
  rw [UInt8.toNat_toUInt16, seven_bits, UInt16.toNat_toUInt8]
  omega

theorem long_subAddress {subAddress : UInt16} (inside : subAddress.toNat ≤ maxSubAddress) :
    (subAddress.toUInt8 &&& 0x7f).toUInt16 ||| ((subAddress >>> 7).toUInt8.toUInt16 <<< 7) =
      subAddress := by
  have limit : maxSubAddress = 2 ^ 15 - 1 := rfl
  have seven : (7 : UInt16).toNat % 16 = 7 := rfl
  have high : ((subAddress >>> 7).toUInt8.toUInt16 <<< 7).toNat =
      2 ^ 7 * (subAddress.toNat / 2 ^ 7) := by
    rw [UInt16.toNat_shiftLeft, UInt8.toNat_toUInt16, UInt16.toNat_toUInt8,
      UInt16.toNat_shiftRight, seven, Nat.shiftRight_eq_div_pow, Nat.shiftLeft_eq]
    omega
  have low : (subAddress.toUInt8 &&& 0x7f).toUInt16.toNat = subAddress.toNat % 2 ^ 7 := by
    rw [UInt8.toNat_toUInt16, seven_bits, UInt16.toNat_toUInt8]
    omega
  apply UInt16.toNat_inj.mp
  rw [UInt16.toNat_or, high, low, Nat.or_comm,
    ← Nat.two_pow_add_eq_or_of_lt (Nat.mod_lt _ (by decide))]
  omega

/-- What the device takes a command for. -/
def understood (command : Command) : Command :=
  { command with
    subAddress := if command.subAddress = lastShortSubAddress then 0 else command.subAddress }

theorem decode?_header {command : Command} (known : command.index ≤ maxRegisterIndex)
    (inside : command.subAddress.toNat ≤ maxSubAddress) (rest : Bytes) :
    decode? (command.header ++ rest) = some (command.understood, rest) := by
  obtain ⟨direction, index, subAddress⟩ := command
  unfold header understood
  dsimp only
  split
  · rename_i start
    subst start
    exact decode?_plain (tells_plain known) rest
  · split
    · rename_i short
      refine (decode?_short (tells_marked known) (seven_bits_unmarked _) rest).trans ?_
      split
      · rename_i boundary
        subst boundary
        rfl
      · rename_i other
        rw [short_subAddress (UInt16.lt_of_le_of_ne short other)]
    · rename_i long
      obtain ⟨marked, low⟩ := seven_bits_marked subAddress.toUInt8
      have other : subAddress ≠ lastShortSubAddress := fun same => long (UInt16.le_of_eq same)
      refine (decode?_long (tells_marked known) marked _ rest).trans ?_
      rw [low, long_subAddress inside, if_neg other]

theorem decode?_whole {command : Command} (known : command.index ≤ maxRegisterIndex)
    (inside : command.subAddress.toNat ≤ maxSubAddress) :
    decode? command.header = some (command.understood, []) := by
  have read := decode?_header known inside []
  rw [List.append_nil] at read
  exact read

theorem length_header_eq_one_iff (command : Command) :
    command.header.length = 1 ↔ command.subAddress = 0 := by
  unfold header
  dsimp only
  split
  · rename_i start
    exact ⟨fun _ => start, fun _ => rfl⟩
  · rename_i beyond
    refine ⟨fun single => ?_, fun start => absurd start beyond⟩
    split at single
    · cases single
    · cases single

/-- Different commands have different headers, also the one that is misunderstood. -/
theorem header_injective {left right : Command} (leftKnown : left.index ≤ maxRegisterIndex)
    (leftInside : left.subAddress.toNat ≤ maxSubAddress)
    (rightKnown : right.index ≤ maxRegisterIndex)
    (rightInside : right.subAddress.toNat ≤ maxSubAddress)
    (same : left.header = right.header) : left = right := by
  have read := decode?_whole leftKnown leftInside
  rw [same, decode?_whole rightKnown rightInside, Option.some.injEq, Prod.mk.injEq] at read
  have agree := read.1
  have starts : left.subAddress = 0 ↔ right.subAddress = 0 := by
    rw [← length_header_eq_one_iff, ← length_header_eq_one_iff, same]
  obtain ⟨direction, index, subAddress⟩ := left
  obtain ⟨otherDirection, otherIndex, otherAddress⟩ := right
  simp only [understood, Command.mk.injEq] at agree starts ⊢
  obtain ⟨directed, indexed, addressed⟩ := agree
  refine ⟨directed.symm, indexed.symm, ?_⟩
  -- Only the misunderstood sub-address is read as another, as the start of the register.
  split at addressed
  · rename_i otherLast
    split at addressed
    · rename_i last
      exact last.trans otherLast.symm
    · have start := starts.mp addressed.symm
      rw [otherLast] at start
      cases start
  · split at addressed
    · rename_i last
      have start := starts.mpr addressed
      rw [last] at start
      cases start
    · exact addressed.symm

end Command

/-- Every access that fits has a header, and no two different accesses have the same. The
device reads all of the header and nothing more, and what it reads is the access that was
asked for exactly if the sub-address is not 128. That one it takes for the start of the
register. -/
theorem header_tells_access_iff {fault : Type} {index : UInt8} {subAddress : UInt16}
    {length : Nat} (known : index ≤ maxRegisterIndex)
    (inside : subAddress.toNat + length ≤ maxSubAddress) (direction : Direction) :
    ∃ header, (encodeHeader index subAddress length direction :
        Except (AccessError fault) Bytes) = .ok header ∧
      (∀ rest, Command.decode? (header ++ rest) =
        some (⟨direction, index, if subAddress = 128 then 0 else subAddress⟩, rest)) ∧
      ((∀ rest, Command.decode? (header ++ rest) = some (⟨direction, index, subAddress⟩, rest)) ↔
        subAddress ≠ 128) ∧
      ∀ otherIndex otherAddress otherLength otherDirection,
        (encodeHeader otherIndex otherAddress otherLength otherDirection :
          Except (AccessError fault) Bytes) = .ok header →
        Command.mk otherDirection otherIndex otherAddress = ⟨direction, index, subAddress⟩ := by
  have within : subAddress.toNat ≤ maxSubAddress := Nat.le_trans (Nat.le_add_right _ _) inside
  have read (rest : Bytes) : Command.decode? (Command.header ⟨direction, index, subAddress⟩ ++ rest) =
      some (⟨direction, index, if subAddress = 128 then 0 else subAddress⟩, rest) :=
    Command.decode?_header known within rest
  refine ⟨Command.header ⟨direction, index, subAddress⟩,
    encodeHeader_eq_ok_iff.mpr ⟨known, inside, rfl⟩, read, ?_, ?_⟩
  · constructor
    · intro exactly last
      have both := (read []).symm.trans (exactly [])
      rw [last] at both
      cases both
    · intro other rest
      rw [read rest, if_neg other]
  · intro otherIndex otherAddress otherLength otherDirection encoded
    obtain ⟨otherKnown, otherInside, same⟩ := encodeHeader_eq_ok_iff.mp encoded
    have otherWithin : otherAddress.toNat ≤ maxSubAddress :=
      Nat.le_trans (Nat.le_add_right _ _) otherInside
    exact (Command.header_injective known within otherKnown otherWithin same).symm

theorem header_of_127_tells_access :
    ∃ header, (encodeHeader 0x11 127 4 .write : Except (AccessError BusFault) Bytes) = .ok header ∧
      ∀ rest, Command.decode? (header ++ rest) = some (⟨.write, 0x11, 127⟩, rest) := by
  obtain ⟨header, encoded, _, exactly, _⟩ :=
    @header_tells_access_iff BusFault 0x11 127 4 (by decide) (by decide) .write
  exact ⟨header, encoded, exactly.mpr (by decide)⟩

/-- A write to sub-address 128 reaches the device as one to the start of the register. -/
theorem header_of_128_tells_start :
    (0x11 : UInt8) ≤ maxRegisterIndex ∧ (128 : UInt16).toNat + 4 ≤ maxSubAddress ∧
      (encodeHeader 0x11 128 4 .write : Except (AccessError BusFault) Bytes) = .ok [0xd1, 0x00] ∧
      Command.decode? [0xd1, 0x00] = some (⟨.write, 0x11, 0⟩, []) ∧
      Command.decode? [0xd1, 0x00] ≠ some (⟨.write, 0x11, 128⟩, []) :=
  ⟨by decide, by decide, rfl, by decide, by decide⟩

end UwbRadio
