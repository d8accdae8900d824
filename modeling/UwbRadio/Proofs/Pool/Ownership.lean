import UwbRadio.Pool

/-!
Which buffers of a pool are reserved, and how a reservation and a release change
that. A buffer counts as owned by its index; an index beyond the pool is never owned.
-/

namespace UwbRadio

namespace Pool

variable {slots size : Nat}

theorem isOwned_lt {pool : Pool slots size} {index : Nat} (owned : pool.isOwned index = true) :
    index < slots := by
  by_cases inside : index < slots
  · exact inside
  · simp [isOwned, inside] at owned

theorem isOwned_of_owned_eq {pool other : Pool slots size} (same : other.owned = pool.owned)
    (index : Nat) : other.isOwned index = pool.isOwned index := by
  rw [isOwned, isOwned, same]

theorem isOwned_empty (index : Nat) : (empty slots size).isOwned index = false := by
  by_cases inside : index < slots <;> simp [isOwned, empty, inside]

theorem isOwned_release (pool : Pool slots size) (slot : Slot) (index : Nat) :
    (pool.release slot).isOwned index = (pool.isOwned index && index != slot.index) := by
  by_cases owned : pool.isOwned slot.index = true
  · have inside := isOwned_lt owned
    rw [release, if_pos owned]
    by_cases same : index = slot.index
    · subst same
      simp [isOwned, inside]
    · have other : slot.index ≠ index := fun equal => same equal.symm
      simp [isOwned, same, Vector.getElem?_setIfInBounds_ne other]
  · rw [release, if_neg owned]
    by_cases same : index = slot.index
    · subst same
      simp [owned]
    · simp [same]

structure Reserves (pool : Pool slots size) (slot : Slot) (after : Pool slots size) : Prop where
  inside : slot.index < slots
  free : pool.isOwned slot.index = false
  owns : ∀ index, after.isOwned index = (pool.isOwned index || index == slot.index)

theorem claim?_reserves {pool after : Pool slots size} {slot : Slot}
    (claimed : pool.claim? = some (slot, after)) : pool.Reserves slot after := by
  unfold claim? at claimed
  obtain ⟨index, found, same⟩ := Option.map_eq_some_iff.mp claimed
  cases same
  have free : pool.isOwned index = false := by simpa using List.find?_some found
  have inside : index < slots := by
    have member := List.mem_of_find?_eq_some found
    unfold searchOrder at member
    obtain ⟨distance, within, same⟩ := List.mem_map.mp member
    have bound := List.mem_range.mp within
    rw [← same]
    exact Nat.mod_lt _ (by omega)
  refine ⟨inside, free, ?_⟩
  intro other
  by_cases same : other = index
  · subst same
    simp [isOwned, inside]
  · have different : index ≠ other := fun equal => same equal.symm
    simp [isOwned, same, Vector.getElem?_setIfInBounds_ne different]

/-- What an attempt at a reservation comes to. Either a buffer is claimed with one of the
permits, or none is found, and then nothing but permits is spent. -/
inductive Attempts (pool : Pool slots size) : Option Slot → Pool slots size → Prop where
  | claims {permits : Nat} {slot : Slot} {after : Pool slots size}
      (claimed : ({ pool with permits } : Pool slots size).claim? = some (slot, after)) :
      Attempts pool (some slot) after
  | fails (permits : Nat) : Attempts pool none { pool with permits }

theorem takePermits_attempts (pool : Pool slots size) (permits : Nat) :
    pool.Attempts (pool.takePermits permits).1 (pool.takePermits permits).2 := by
  induction permits with
  | zero => exact .fails 0
  | succ permits ih =>
      rw [takePermits]
      split
      · rename_i claimed
        exact .claims claimed
      · exact ih

theorem attempts_of_reserve {pool after : Pool slots size} {found : Option Slot}
    (attempted : pool.reserve = (found, after)) : pool.Attempts found after := by
  have attempts := pool.takePermits_attempts pool.permits
  rw [← reserve, attempted] at attempts
  exact attempts

theorem attempts_of_tryReserve {pool after : Pool slots size} {found : Option Slot}
    (attempted : pool.tryReserve = (found, after)) : pool.Attempts found after := by
  unfold tryReserve at attempted
  split at attempted
  · cases attempted
    exact .fails pool.permits
  · dsimp only at attempted
    split at attempted
    · rename_i claimed
      cases attempted
      exact .claims claimed
    · cases attempted
      exact .fails _

theorem Attempts.reserves {pool after : Pool slots size} {slot : Slot}
    (attempts : pool.Attempts (some slot) after) : pool.Reserves slot after := by
  cases attempts with
  | claims claimed =>
      have reserved := claim?_reserves claimed
      exact ⟨reserved.inside, reserved.free, reserved.owns⟩

theorem Attempts.owned {pool after : Pool slots size} (attempts : pool.Attempts none after) :
    after.owned = pool.owned := by
  cases attempts
  rfl

theorem reserve_reserves {pool after : Pool slots size} {slot : Slot}
    (reserved : pool.reserve = (some slot, after)) : pool.Reserves slot after :=
  (attempts_of_reserve reserved).reserves

theorem reserve_none {pool after : Pool slots size}
    (exhausted : pool.reserve = (none, after)) : after.owned = pool.owned :=
  (attempts_of_reserve exhausted).owned

theorem tryReserve_reserves {pool after : Pool slots size} {slot : Slot}
    (reserved : pool.tryReserve = (some slot, after)) : pool.Reserves slot after :=
  (attempts_of_tryReserve reserved).reserves

theorem tryReserve_none {pool after : Pool slots size}
    (exhausted : pool.tryReserve = (none, after)) : after.owned = pool.owned :=
  (attempts_of_tryReserve exhausted).owned

def ownedIndices (pool : Pool slots size) : List Nat :=
  (List.range slots).filter pool.isOwned

theorem mem_ownedIndices {pool : Pool slots size} {index : Nat} :
    index ∈ pool.ownedIndices ↔ pool.isOwned index = true := by
  unfold ownedIndices
  rw [List.mem_filter, List.mem_range]
  exact ⟨fun both => both.2, fun owned => ⟨isOwned_lt owned, owned⟩⟩

theorem ownedIndices_nodup (pool : Pool slots size) : pool.ownedIndices.Nodup :=
  List.Pairwise.filter _ List.nodup_range

theorem outstanding_eq (pool : Pool slots size) :
    pool.outstanding = pool.ownedIndices.length := by
  have listed : (List.range slots).map pool.isOwned = pool.owned.toList := by
    apply List.ext_getElem
    · simp
    · intro index left right
      have inside : index < slots := by simpa using left
      simp [isOwned, inside]
  unfold outstanding ownedIndices
  rw [← List.countP_eq_length_filter, ← Vector.count_toList, ← listed, List.count,
    List.countP_map]
  congr 1
  funext index
  simp

end Pool

end UwbRadio
