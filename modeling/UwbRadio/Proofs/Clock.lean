import Mathlib.Data.Nat.ModEq
import UwbRadio.Clock

/-!
The clock counts modulo `2 ^ 40`. Whatever instants and durations come up, they stay
within 40 bits and no machine word over- or underflows on the way. A duration added to an
instant is the duration since that instant, durations add in any order, and the times
between three instants add up to whole turns of the clock.

`Instant.Made` and `Duration.Made` are the values that can come up at all. The checked
forms of the operations, such as `Instant.since?`, give nothing where a machine word would
wrap.
-/

namespace UwbRadio

mutual

inductive Instant.Made : Instant → Prop
  | ofTicks? {ticks : UInt64} {instant : Instant} (fits : Instant.ofTicks? ticks = some instant) :
      Instant.Made instant
  | wrapping (ticks : UInt64) : Instant.Made (Instant.wrapping ticks)
  | add {instant : Instant} {duration : Duration} (start : Instant.Made instant)
      (passed : Duration.Made duration) : Instant.Made (instant + duration)

inductive Duration.Made : Duration → Prop
  | ofTicks? {ticks : UInt64} {duration : Duration}
      (fits : Duration.ofTicks? ticks = some duration) : Duration.Made duration
  | ofTicks (ticks : UInt32) : Duration.Made (Duration.ofTicks ticks)
  | ofNanoseconds (nanoseconds : UInt32) : Duration.Made (Duration.ofNanoseconds nanoseconds)
  | since {later earlier : Instant} (last : Instant.Made later) (first : Instant.Made earlier) :
      Duration.Made (later.since earlier)

end

theorem le_maxTicks_iff (ticks : UInt64) : ticks ≤ maxTicks ↔ ticks.toNat < 2 ^ 40 := by
  have largest : maxTicks.toNat = 2 ^ 40 - 1 := rfl
  rw [UInt64.le_iff_toNat_le]
  omega

theorem Instant.toNat_wrapping (ticks : UInt64) :
    (Instant.wrapping ticks).ticks.toNat = ticks.toNat % 2 ^ 40 := by
  have mask : maxTicks.toNat = 2 ^ 40 - 1 := rfl
  rw [wrapping, UInt64.toNat_and, mask, Nat.and_two_pow_sub_one_eq_mod]

/-- A turn of the clock divides a turn of the machine word, so this needs no bounds. -/
theorem Instant.toNat_add (instant : Instant) (duration : Duration) :
    (instant + duration).ticks.toNat =
      (instant.ticks.toNat + duration.ticks.toNat) % 2 ^ 40 := by
  have turn : (maxTicks + 1).toNat = 2 ^ 40 := rfl
  change ((instant.ticks + duration.ticks) % (maxTicks + 1)).toNat = _
  rw [UInt64.toNat_mod, UInt64.toNat_add, turn]
  omega

theorem Instant.toNat_since {later earlier : Instant} (last : later.ticks ≤ maxTicks)
    (first : earlier.ticks ≤ maxTicks) :
    (later.since earlier).ticks.toNat =
      (later.ticks.toNat + 2 ^ 40 - earlier.ticks.toNat) % 2 ^ 40 := by
  have largest : maxTicks.toNat = 2 ^ 40 - 1 := rfl
  have one : (1 : UInt64).toNat = 1 := rfl
  have bound := (le_maxTicks_iff _).mp last
  have earlierBound := (le_maxTicks_iff _).mp first
  unfold since
  split
  · rename_i ordered
    have order := UInt64.le_iff_toNat_le.mp ordered
    rw [UInt64.toNat_sub_of_le _ _ ordered]
    omega
  · rename_i wrapped
    have order : later.ticks.toNat < earlier.ticks.toNat :=
      UInt64.lt_iff_toNat_lt.mp (UInt64.not_le.mp wrapped)
    rw [UInt64.toNat_add, UInt64.toNat_add, UInt64.toNat_sub_of_le _ _ first, largest, one]
    omega

theorem Duration.toNat_ofNanoseconds (nanoseconds : UInt32) :
    (Duration.ofNanoseconds nanoseconds).ticks.toNat =
      (nanoseconds.toNat * 638976 + 5000) / 10000 := by
  have bound : nanoseconds.toNat < 2 ^ 32 := nanoseconds.toNat_lt
  have factor : (638976 : UInt64).toNat = 638976 := rfl
  have half : (5000 : UInt64).toNat = 5000 := rfl
  have unit : (10000 : UInt64).toNat = 10000 := rfl
  rw [ofNanoseconds, UInt64.toNat_div, UInt64.toNat_add, UInt64.toNat_mul, factor, half, unit,
    UInt32.toNat_toUInt64]
  omega

mutual

theorem Instant.Made.bound : ∀ {instant : Instant}, instant.Made → instant.ticks ≤ maxTicks
  | _, .ofTicks? fits => by
      unfold Instant.ofTicks? at fits
      split at fits
      · cases fits
        assumption
      · cases fits
  | _, .wrapping ticks => by
      rw [le_maxTicks_iff, Instant.toNat_wrapping]
      exact Nat.mod_lt _ (by decide)
  | _, .add _ _ => by
      rw [le_maxTicks_iff, Instant.toNat_add]
      exact Nat.mod_lt _ (by decide)

theorem Duration.Made.bound : ∀ {duration : Duration}, duration.Made → duration.ticks ≤ maxTicks
  | _, .ofTicks? fits => by
      unfold Duration.ofTicks? at fits
      split at fits
      · cases fits
        assumption
      · cases fits
  | _, .ofTicks ticks => by
      have bound : ticks.toNat < 2 ^ 32 := ticks.toNat_lt
      rw [le_maxTicks_iff, Duration.ofTicks, UInt32.toNat_toUInt64]
      omega
  | _, .ofNanoseconds nanoseconds => by
      have bound : nanoseconds.toNat < 2 ^ 32 := nanoseconds.toNat_lt
      rw [le_maxTicks_iff, Duration.toNat_ofNanoseconds]
      omega
  | _, .since last first => by
      rw [le_maxTicks_iff, Instant.toNat_since last.bound first.bound]
      exact Nat.mod_lt _ (by decide)

end

namespace Checked

def add (left right : UInt64) : Option UInt64 :=
  if left.toNat + right.toNat < UInt64.size then some (left + right) else none

def sub (left right : UInt64) : Option UInt64 :=
  if right ≤ left then some (left - right) else none

def mul (left right : UInt64) : Option UInt64 :=
  if left.toNat * right.toNat < UInt64.size then some (left * right) else none

variable {left right : UInt64}

theorem add_eq_some (fits : left.toNat + right.toNat < 2 ^ 64) :
    add left right = some (left + right) :=
  if_pos fits

theorem sub_eq_some (fits : right ≤ left) : sub left right = some (left - right) :=
  if_pos fits

theorem mul_eq_some (fits : left.toNat * right.toNat < 2 ^ 64) :
    mul left right = some (left * right) :=
  if_pos fits

end Checked

def Instant.add? (instant : Instant) (duration : Duration) : Option Instant := do
  let sum ← Checked.add instant.ticks duration.ticks
  let turn ← Checked.add maxTicks 1
  return ⟨sum % turn⟩

def Instant.since? (later earlier : Instant) : Option Duration :=
  if later.ticks ≥ earlier.ticks then do
    let ticks ← Checked.sub later.ticks earlier.ticks
    return ⟨ticks⟩
  else do
    let untilTurn ← Checked.sub maxTicks earlier.ticks
    let sum ← Checked.add untilTurn later.ticks
    let ticks ← Checked.add sum 1
    return ⟨ticks⟩

def Duration.ofNanoseconds? (nanoseconds : UInt32) : Option Duration := do
  let product ← Checked.mul nanoseconds.toUInt64 638976
  let sum ← Checked.add product 5000
  return ⟨sum / 10000⟩

def Duration.nanoseconds? (duration : Duration) : Option UInt64 := do
  let product ← Checked.mul duration.ticks 10000
  return product / 638976

section

open Option (bind_eq_some_iff)

theorem Instant.add?_eq {instant : Instant} {duration : Duration}
    (start : instant.ticks ≤ maxTicks) (passed : duration.ticks ≤ maxTicks) :
    instant.add? duration = some (instant + duration) := by
  have turn : Checked.add maxTicks 1 = some (maxTicks + 1) := Checked.add_eq_some (by decide)
  rw [le_maxTicks_iff] at start passed
  have sum : Checked.add instant.ticks duration.ticks = some (instant.ticks + duration.ticks) :=
    Checked.add_eq_some (by omega)
  exact bind_eq_some_iff.mpr ⟨_, sum, bind_eq_some_iff.mpr ⟨_, turn, rfl⟩⟩

theorem Instant.since?_eq {later earlier : Instant} (last : later.ticks ≤ maxTicks)
    (first : earlier.ticks ≤ maxTicks) : later.since? earlier = some (later.since earlier) := by
  by_cases ordered : later.ticks ≥ earlier.ticks
  · rw [since?, since, if_pos ordered, if_pos ordered]
    exact bind_eq_some_iff.mpr ⟨_, Checked.sub_eq_some ordered, rfl⟩
  · have order : later.ticks.toNat < earlier.ticks.toNat :=
      UInt64.lt_iff_toNat_lt.mp (UInt64.not_le.mp ordered)
    have largest : maxTicks.toNat = 2 ^ 40 - 1 := rfl
    have one : (1 : UInt64).toNat = 1 := rfl
    have bound := (le_maxTicks_iff _).mp last
    have untilTurn := UInt64.toNat_sub_of_le _ _ first
    have sum : Checked.add (maxTicks - earlier.ticks) later.ticks =
        some (maxTicks - earlier.ticks + later.ticks) := Checked.add_eq_some (by omega)
    have next : Checked.add (maxTicks - earlier.ticks + later.ticks) 1 =
        some (maxTicks - earlier.ticks + later.ticks + 1) := by
      apply Checked.add_eq_some
      rw [UInt64.toNat_add]
      omega
    rw [since?, since, if_neg ordered, if_neg ordered]
    exact bind_eq_some_iff.mpr ⟨_, Checked.sub_eq_some first,
      bind_eq_some_iff.mpr ⟨_, sum, bind_eq_some_iff.mpr ⟨_, next, rfl⟩⟩⟩

theorem Duration.ofNanoseconds?_eq (nanoseconds : UInt32) :
    ofNanoseconds? nanoseconds = some (ofNanoseconds nanoseconds) := by
  have bound : nanoseconds.toNat < 2 ^ 32 := nanoseconds.toNat_lt
  have factor : (638976 : UInt64).toNat = 638976 := rfl
  have half : (5000 : UInt64).toNat = 5000 := rfl
  have product : Checked.mul nanoseconds.toUInt64 638976 =
      some (nanoseconds.toUInt64 * 638976) := by
    apply Checked.mul_eq_some
    rw [factor, UInt32.toNat_toUInt64]
    omega
  have sum : Checked.add (nanoseconds.toUInt64 * 638976) 5000 =
      some (nanoseconds.toUInt64 * 638976 + 5000) := by
    apply Checked.add_eq_some
    rw [UInt64.toNat_mul, factor, half, UInt32.toNat_toUInt64]
    omega
  exact bind_eq_some_iff.mpr ⟨_, product, bind_eq_some_iff.mpr ⟨_, sum, rfl⟩⟩

theorem Duration.nanoseconds?_eq {duration : Duration} (bound : duration.ticks ≤ maxTicks) :
    duration.nanoseconds? = some duration.nanoseconds := by
  rw [le_maxTicks_iff] at bound
  have product : Checked.mul duration.ticks 10000 = some (duration.ticks * 10000) := by
    have factor : (10000 : UInt64).toNat = 10000 := rfl
    apply Checked.mul_eq_some
    rw [factor]
    omega
  exact bind_eq_some_iff.mpr ⟨_, product, rfl⟩

end

/-! ### Instants and durations as one clock -/

theorem Instant.eq_of_toNat_eq {left right : Instant}
    (same : left.ticks.toNat = right.ticks.toNat) : left = right :=
  congrArg Instant.mk (UInt64.toNat_inj.mp same)

theorem Duration.eq_of_toNat_eq {left right : Duration}
    (same : left.ticks.toNat = right.ticks.toNat) : left = right :=
  congrArg Duration.mk (UInt64.toNat_inj.mp same)

section

variable {a b c : Instant} {d : Duration}

theorem Instant.since_add (start : a.ticks ≤ maxTicks) (passed : d.ticks ≤ maxTicks) :
    (a + d).since a = d := by
  have sum := toNat_add a d
  have within : (a + d).ticks ≤ maxTicks := by
    rw [le_maxTicks_iff, sum]
    exact Nat.mod_lt _ (by decide)
  apply Duration.eq_of_toNat_eq
  rw [toNat_since within start, sum]
  rw [le_maxTicks_iff] at start passed
  omega

theorem Instant.add_since (last : b.ticks ≤ maxTicks) (first : a.ticks ≤ maxTicks) :
    a + b.since a = b := by
  apply Instant.eq_of_toNat_eq
  rw [toNat_add, toNat_since last first]
  rw [le_maxTicks_iff] at last first
  omega

theorem Instant.add_right_comm (a : Instant) (d e : Duration) : a + d + e = a + e + d := by
  apply Instant.eq_of_toNat_eq
  simp only [toNat_add]
  omega

theorem Instant.since_modEq (last : c.ticks ≤ maxTicks) (middle : b.ticks ≤ maxTicks)
    (first : a.ticks ≤ maxTicks) :
    (c.since a).ticks.toNat ≡
      (c.since b).ticks.toNat + (b.since a).ticks.toNat [MOD 2 ^ 40] := by
  rw [toNat_since last first, toNat_since last middle, toNat_since middle first]
  rw [le_maxTicks_iff] at last middle first
  unfold Nat.ModEq
  omega

theorem Instant.since_add_since (last : a.ticks ≤ maxTicks) (first : b.ticks ≤ maxTicks) :
    (a.since b).ticks.toNat + (b.since a).ticks.toNat = if a = b then 0 else 2 ^ 40 := by
  rw [toNat_since last first, toNat_since first last]
  rw [le_maxTicks_iff] at last first
  split
  · rename_i same
    subst same
    omega
  · rename_i different
    have apart : a.ticks.toNat ≠ b.ticks.toNat :=
      fun same => different (Instant.eq_of_toNat_eq same)
    omega

end

/-- Instants and durations form a clock modulo `2 ^ 40`. No value that comes up exceeds 40
bits and no operation on one leaves its machine word. Adding a duration and taking the time
since are inverse to each other, and times add up to whole turns. -/
theorem clock_is_modular {a b c : Instant} {d e : Duration} (aMade : a.Made) (bMade : b.Made)
    (cMade : c.Made) (dMade : d.Made) :
    (a.ticks ≤ maxTicks ∧ d.ticks ≤ maxTicks) ∧
      (a.add? d = some (a + d) ∧ a.since? b = some (a.since b) ∧
        (∀ count, Duration.ofNanoseconds? count = some (Duration.ofNanoseconds count)) ∧
        d.nanoseconds? = some d.nanoseconds) ∧
      (a + d).since a = d ∧
      a + b.since a = b ∧
      a + d + e = a + e + d ∧
      (c.since a).ticks.toNat ≡
        (c.since b).ticks.toNat + (b.since a).ticks.toNat [MOD 2 ^ 40] ∧
      (a.since b).ticks.toNat + (b.since a).ticks.toNat = if a = b then 0 else 2 ^ 40 := by
  have aBound := aMade.bound
  have bBound := bMade.bound
  have cBound := cMade.bound
  have dBound := dMade.bound
  refine ⟨⟨aBound, dBound⟩, ⟨Instant.add?_eq aBound dBound, Instant.since?_eq aBound bBound,
    Duration.ofNanoseconds?_eq, Duration.nanoseconds?_eq dBound⟩, ?_, ?_, ?_, ?_, ?_⟩
  · exact Instant.since_add aBound dBound
  · exact Instant.add_since bBound aBound
  · exact Instant.add_right_comm a d e
  · exact Instant.since_modEq cBound bBound aBound
  · exact Instant.since_add_since aBound bBound

/-- From the last tick before a turn to instants behind it. -/
theorem clock_turns_over :
    (Instant.wrapping 0xffffffffff).Made ∧ (Instant.wrapping 40).Made ∧
      (Duration.ofNanoseconds 1).Made ∧ (Duration.ofTicks 2).Made ∧
      Instant.wrapping 0xffffffffff + Duration.ofNanoseconds 1 = ⟨63⟩ ∧
      Instant.since ⟨63⟩ (Instant.wrapping 0xffffffffff) = Duration.ofNanoseconds 1 ∧
      Instant.wrapping 0xffffffffff + Duration.ofNanoseconds 1 + Duration.ofTicks 2 =
        Instant.wrapping 0xffffffffff + Duration.ofTicks 2 + Duration.ofNanoseconds 1 ∧
      (Instant.since (.wrapping 0xffffffffff) (.wrapping 40)).ticks.toNat +
        (Instant.since (.wrapping 40) (.wrapping 0xffffffffff)).ticks.toNat = 2 ^ 40 := by
  have start := Instant.Made.wrapping 0xffffffffff
  have behind := Instant.Made.wrapping 40
  have passed := Duration.Made.ofNanoseconds 1
  have sum : Instant.wrapping 0xffffffffff + Duration.ofNanoseconds 1 = ⟨63⟩ := by decide
  obtain ⟨_, _, back, _, commutes, _, turn⟩ :=
    @clock_is_modular _ _ _ _ (Duration.ofTicks 2) start behind start passed
  rw [sum] at back
  rw [if_neg (by decide)] at turn
  exact ⟨start, behind, passed, .ofTicks 2, sum, back, commutes, turn⟩

end UwbRadio
