import UwbRadio.Proofs.Clock

/-!
Nanoseconds and ticks. A nanosecond is 63.8976 ticks, so neither conversion is exact: a
count of nanoseconds rounds to the nearest tick, a duration rounds down to whole
nanoseconds. There and back, a count loses one nanosecond if it was rounded down and nothing
otherwise, and a duration loses at most 64 ticks.

Exact amounts are compared in ten-thousandths of a tick: a tick is 10000 of them and a
nanosecond 638976.
-/

namespace UwbRadio.Duration

/-- What rounding adds to `count` nanoseconds, in ten-thousandths of a tick. -/
def surplus (count : UInt32) : Int :=
  10000 * (ofNanoseconds count).ticks.toNat - 638976 * count.toNat

/-- Rounding moves half a tick at most, and a half goes up. -/
theorem surplus_bounds (count : UInt32) : -5000 < surplus count ∧ surplus count ≤ 5000 := by
  have ticks := toNat_ofNanoseconds count
  unfold surplus
  omega

theorem surplus_nearest (count : UInt32) (ticks : Nat) :
    (surplus count).natAbs ≤ (10000 * (ticks : Int) - 638976 * count.toNat).natAbs := by
  by_cases same : ticks = (ofNanoseconds count).ticks.toNat
  · rw [same]
    exact Nat.le_refl _
  · obtain ⟨above, below⟩ := surplus_bounds count
    unfold surplus at above below ⊢
    omega

theorem ofNanoseconds_lt {count later : UInt32} (order : count < later) :
    (ofNanoseconds count).ticks < (ofNanoseconds later).ticks := by
  have apart : count.toNat < later.toNat := UInt32.lt_iff_toNat_lt.mp order
  have most := (surplus_bounds count).2
  have least := (surplus_bounds later).1
  unfold surplus at most least
  rw [UInt64.lt_iff_toNat_lt]
  omega

variable {duration longer : Duration}

theorem toNat_nanoseconds (bound : duration.ticks ≤ maxTicks) :
    duration.nanoseconds.toNat = duration.ticks.toNat * 10000 / 638976 := by
  have tick : (10000 : UInt64).toNat = 10000 := rfl
  have nanosecond : (638976 : UInt64).toNat = 638976 := rfl
  rw [le_maxTicks_iff] at bound
  have product : duration.ticks.toNat * 10000 < 2 ^ 64 := by omega
  rw [nanoseconds, UInt64.toNat_div, UInt64.toNat_mul, tick, nanosecond,
    Nat.mod_eq_of_lt product]

theorem nanoseconds_floor (bound : duration.ticks ≤ maxTicks) :
    638976 * duration.nanoseconds.toNat ≤ 10000 * duration.ticks.toNat ∧
      10000 * duration.ticks.toNat < 638976 * (duration.nanoseconds.toNat + 1) := by
  rw [toNat_nanoseconds bound, Nat.mul_comm 10000]
  exact ⟨Nat.mul_div_le _ _, Nat.lt_mul_div_succ _ (by decide)⟩

theorem nanoseconds_mono (bound : duration.ticks ≤ maxTicks)
    (longerBound : longer.ticks ≤ maxTicks) (order : duration.ticks ≤ longer.ticks) :
    duration.nanoseconds ≤ longer.nanoseconds := by
  rw [UInt64.le_iff_toNat_le] at order ⊢
  rw [toNat_nanoseconds bound, toNat_nanoseconds longerBound]
  exact Nat.div_le_div_right (Nat.mul_le_mul_right _ order)

theorem nanoseconds_ofNanoseconds (count : UInt32) :
    if 0 ≤ surplus count then (ofNanoseconds count).nanoseconds.toNat = count.toNat
    else (ofNanoseconds count).nanoseconds.toNat + 1 = count.toNat := by
  obtain ⟨above, below⟩ := surplus_bounds count
  obtain ⟨least, most⟩ := nanoseconds_floor (Made.ofNanoseconds count).bound
  unfold surplus at above below ⊢
  split <;> omega

theorem ofNanoseconds_nanoseconds (bound : duration.ticks ≤ maxTicks)
    (fits : duration.nanoseconds.toNat < 2 ^ 32) :
    (ofNanoseconds duration.nanoseconds.toUInt32).ticks ≤ duration.ticks ∧
      duration.ticks.toNat ≤ (ofNanoseconds duration.nanoseconds.toUInt32).ticks.toNat + 64 := by
  have kept : duration.nanoseconds.toUInt32.toNat = duration.nanoseconds.toNat := by
    rw [UInt64.toNat_toUInt32, Nat.mod_eq_of_lt fits]
  obtain ⟨above, below⟩ := surplus_bounds duration.nanoseconds.toUInt32
  obtain ⟨least, most⟩ := nanoseconds_floor bound
  unfold surplus at above below
  rw [kept] at above below
  rw [UInt64.le_iff_toNat_le]
  omega

/-- Every count of nanoseconds becomes a duration, the nearest there is, and different counts
stay in order. Every duration becomes a number of nanoseconds, of which a longer one has no
fewer. There and back, a count loses a nanosecond exactly if it was rounded down, and a
duration nothing or up to 64 ticks. No machine word wraps on the way. -/
theorem conversions_lose_only_by_rounding (count : UInt32) (made : duration.Made)
    (longerMade : longer.Made) :
    ((ofNanoseconds count).ticks ≤ maxTicks ∧
        ofNanoseconds? count = some (ofNanoseconds count)) ∧
      ((surplus count).natAbs ≤ 5000 ∧
        ∀ ticks : Nat, (surplus count).natAbs ≤
          (10000 * (ticks : Int) - 638976 * count.toNat).natAbs) ∧
      (∀ later, count < later → (ofNanoseconds count).ticks < (ofNanoseconds later).ticks) ∧
      ((if 0 ≤ surplus count then (ofNanoseconds count).nanoseconds.toNat = count.toNat
          else (ofNanoseconds count).nanoseconds.toNat + 1 = count.toNat) ∧
        (ofNanoseconds count).nanoseconds.toNat ≤ count.toNat ∧
        count.toNat - 1 ≤ (ofNanoseconds count).nanoseconds.toNat) ∧
      (duration.ticks ≤ longer.ticks → duration.nanoseconds ≤ longer.nanoseconds) ∧
      duration.nanoseconds? = some duration.nanoseconds ∧
      (duration.nanoseconds.toNat < 2 ^ 32 →
        (ofNanoseconds duration.nanoseconds.toUInt32).ticks ≤ duration.ticks ∧
          duration.ticks.toNat ≤
            (ofNanoseconds duration.nanoseconds.toUInt32).ticks.toNat + 64) := by
  have bound := made.bound
  have back := nanoseconds_ofNanoseconds count
  refine ⟨⟨(Made.ofNanoseconds count).bound, ofNanoseconds?_eq count⟩,
    ⟨?_, surplus_nearest count⟩, fun _ order => ofNanoseconds_lt order, ⟨back, ?_⟩,
    nanoseconds_mono bound longerMade.bound, nanoseconds?_eq bound,
    ofNanoseconds_nanoseconds bound⟩
  · have within := surplus_bounds count
    omega
  · split at back <;> omega

/-- Six nanoseconds are rounded down to 383 ticks, and come back as five. From there the 383
ticks come back as 319. -/
theorem six_nanoseconds_come_back_as_five :
    (6 : UInt32) < 7 ∧ (ofTicks 383).Made ∧ Made ⟨maxTicks⟩ ∧
      (ofNanoseconds 6).ticks < (ofNanoseconds 7).ticks ∧
      surplus 6 = -3856 ∧ (ofNanoseconds 6).nanoseconds.toNat + 1 = 6 ∧
      (ofTicks 383).ticks ≤ maxTicks ∧ (ofTicks 383).nanoseconds ≤ nanoseconds ⟨maxTicks⟩ ∧
      (ofTicks 383).nanoseconds = 5 ∧ (ofNanoseconds 5).ticks = 319 ∧
      (ofTicks 383).ticks.toNat ≤ (ofNanoseconds 5).ticks.toNat + 64 := by
  have made := Made.ofTicks 383
  have longest : Made ⟨maxTicks⟩ := .ofTicks? (show ofTicks? maxTicks = some ⟨maxTicks⟩ from rfl)
  have down : surplus 6 = -3856 := by decide
  have order : (ofTicks 383).ticks ≤ maxTicks := by decide
  have five : (ofTicks 383).nanoseconds = 5 := by decide
  obtain ⟨_, _, increases, ⟨back, _⟩, monotone, _, near⟩ :=
    conversions_lose_only_by_rounding 6 made longest
  rw [if_neg (by rw [down]; decide)] at back
  obtain ⟨_, within⟩ := near (by decide)
  rw [five] at within
  exact ⟨by decide, made, longest, increases 7 (by decide), down, back, order, monotone order,
    five, by decide, within⟩

end UwbRadio.Duration
