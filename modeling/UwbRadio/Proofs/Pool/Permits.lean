import UwbRadio.Proofs.Pool.Ownership

/-!
The permits of a pool. A buffer that is not reserved stands for one permit, so a
permit that has been taken is never in vain and one that is given back has room.
-/

namespace UwbRadio

namespace Pool

variable {slots size : Nat}

/-- Each buffer is reserved or stands for one permit. -/
def Accounted (pool : Pool slots size) : Prop :=
  pool.permits + pool.outstanding = slots

theorem outstanding_le (pool : Pool slots size) : pool.outstanding ≤ slots := by
  rw [outstanding_eq]
  have bound := List.length_filter_le pool.isOwned (List.range slots)
  rw [List.length_range] at bound
  exact bound

theorem accounted_empty : (empty slots size).Accounted := by
  have none : (empty slots size).ownedIndices = [] := by
    rw [ownedIndices, List.filter_eq_nil_iff]
    intro index _
    rw [isOwned_empty]
    exact Bool.false_ne_true
  rw [Accounted, outstanding_eq, none]
  rfl

theorem Reserves.outstanding {pool after : Pool slots size} {slot : Slot}
    (reserves : pool.Reserves slot after) : after.outstanding = pool.outstanding + 1 := by
  have free : slot.index ∉ pool.ownedIndices := by
    rw [mem_ownedIndices, reserves.free]
    exact Bool.false_ne_true
  have listed : after.ownedIndices.Perm (slot.index :: pool.ownedIndices) := by
    refine (List.perm_ext_iff_of_nodup after.ownedIndices_nodup
      (List.nodup_cons.mpr ⟨free, pool.ownedIndices_nodup⟩)).mpr fun index => ?_
    rw [mem_ownedIndices, reserves.owns, List.mem_cons, mem_ownedIndices, Bool.or_eq_true,
      beq_iff_eq, or_comm]
  rw [outstanding_eq, outstanding_eq, listed.length_eq, List.length_cons]

theorem outstanding_release {pool : Pool slots size} {slot : Slot}
    (owned : pool.isOwned slot.index = true) :
    (pool.release slot).outstanding + 1 = pool.outstanding := by
  have listed : (slot.index :: (pool.release slot).ownedIndices).Perm pool.ownedIndices := by
    refine (List.perm_ext_iff_of_nodup
      (List.nodup_cons.mpr ⟨?_, (pool.release slot).ownedIndices_nodup⟩)
      pool.ownedIndices_nodup).mpr fun index => ?_
    · simp [mem_ownedIndices, isOwned_release]
    · rw [List.mem_cons, mem_ownedIndices, mem_ownedIndices, isOwned_release]
      by_cases same : index = slot.index
      · simp [same, owned]
      · simp [same]
  rw [outstanding_eq, outstanding_eq, ← listed.length_eq, List.length_cons]

theorem mem_searchOrder (pool : Pool slots size) {index : Nat} (inside : index < slots) :
    index ∈ pool.searchOrder := by
  rw [searchOrder, List.mem_map]
  refine ⟨(index + (slots - pool.cursor % slots)) % slots, ?_, ?_⟩
  · exact List.mem_range.mpr (Nat.mod_lt _ (by omega))
  · have start : pool.cursor % slots < slots := Nat.mod_lt _ (by omega)
    have around : pool.cursor % slots + (index + (slots - pool.cursor % slots)) =
        index + slots := by
      omega
    rw [Nat.add_mod, Nat.mod_mod, ← Nat.add_mod, ← Nat.mod_add_mod, around, Nat.add_mod_right,
      Nat.mod_eq_of_lt inside]

theorem lt_of_mem_searchOrder {pool : Pool slots size} {index : Nat}
    (member : index ∈ pool.searchOrder) : index < slots := by
  obtain ⟨distance, within, same⟩ := List.mem_map.mp member
  have bound := List.mem_range.mp within
  rw [← same]
  exact Nat.mod_lt _ (by omega)

theorem claim?_isSome (pool : Pool slots size) :
    pool.claim?.isSome = true ↔ pool.outstanding < slots := by
  have counted : pool.outstanding < slots ↔
      ∃ index ∈ List.range slots, ¬pool.isOwned index = true := by
    rw [← List.length_filter_lt_length_iff_exists, List.length_range, outstanding_eq,
      ownedIndices]
  rw [claim?, Option.isSome_map, List.find?_isSome, counted]
  constructor
  · rintro ⟨index, member, free⟩
    exact ⟨index, List.mem_range.mpr (lt_of_mem_searchOrder member), by simpa using free⟩
  · rintro ⟨index, member, free⟩
    exact ⟨index, pool.mem_searchOrder (List.mem_range.mp member), by simpa using free⟩

/-- A permit stands for a free buffer, which is there once the permit is taken. -/
theorem Accounted.claim?_isSome {pool : Pool slots size} (accounted : pool.Accounted)
    {permits : Nat} (some : pool.permits = permits + 1) :
    ({ pool with permits } : Pool slots size).claim?.isSome = true := by
  refine (Pool.claim?_isSome _).mpr ?_
  have same : ({ pool with permits } : Pool slots size).outstanding = pool.outstanding := rfl
  rw [Accounted] at accounted
  omega

theorem claim?_permits {pool after : Pool slots size} {slot : Slot}
    (claimed : pool.claim? = some (slot, after)) : after.permits = pool.permits := by
  unfold claim? at claimed
  obtain ⟨index, _, same⟩ := Option.map_eq_some_iff.mp claimed
  cases same
  rfl

theorem Accounted.reserve_some {pool : Pool slots size} (accounted : pool.Accounted)
    {permits : Nat} (left : pool.permits = permits + 1) :
    ∃ slot after, ({ pool with permits } : Pool slots size).claim? = some (slot, after) ∧
      pool.reserve = (some slot, after) ∧ pool.tryReserve = (some slot, after) := by
  obtain ⟨⟨slot, after⟩, claimed⟩ := Option.isSome_iff_exists.mp (accounted.claim?_isSome left)
  refine ⟨slot, after, claimed, ?_, ?_⟩
  · rw [reserve, left, takePermits, claimed]
  · rw [tryReserve, left]
    simp only [claimed]

theorem reserve_of_no_permits {pool : Pool slots size} (none : pool.permits = 0) :
    pool.reserve = (.none, pool) ∧ pool.tryReserve = (.none, pool) := by
  constructor
  · rw [reserve, none, takePermits]
    exact congrArg _ (by rw [← none])
  · rw [tryReserve, none]

theorem Accounted.claim {pool after : Pool slots size} {slot : Slot} (accounted : pool.Accounted)
    {permits : Nat} (left : pool.permits = permits + 1)
    (claimed : ({ pool with permits } : Pool slots size).claim? = some (slot, after)) :
    after.Accounted := by
  have reserves := claim?_reserves claimed
  have same : ({ pool with permits } : Pool slots size).outstanding = pool.outstanding := rfl
  rw [Accounted] at accounted ⊢
  rw [reserves.outstanding, claim?_permits claimed, same]
  dsimp only
  omega

theorem Accounted.reserve {pool : Pool slots size} (accounted : pool.Accounted) :
    pool.reserve.2.Accounted := by
  cases left : pool.permits with
  | zero => rw [(reserve_of_no_permits left).1]; exact accounted
  | succ permits =>
      obtain ⟨slot, after, claimed, reserved, _⟩ := accounted.reserve_some left
      rw [reserved]
      exact accounted.claim left claimed

theorem Accounted.tryReserve {pool : Pool slots size} (accounted : pool.Accounted) :
    pool.tryReserve.2.Accounted := by
  cases left : pool.permits with
  | zero => rw [(reserve_of_no_permits left).2]; exact accounted
  | succ permits =>
      obtain ⟨slot, after, claimed, _, reserved⟩ := accounted.reserve_some left
      rw [reserved]
      exact accounted.claim left claimed

theorem Accounted.room {pool : Pool slots size} {index : Nat} (accounted : pool.Accounted)
    (owned : pool.isOwned index = true) : pool.permits < slots := by
  have counted : 0 < pool.outstanding := by
    rw [outstanding_eq]
    exact List.length_pos_of_mem (mem_ownedIndices.mpr owned)
  rw [Accounted] at accounted
  omega

theorem Accounted.release {pool : Pool slots size} (accounted : pool.Accounted) (slot : Slot) :
    (pool.release slot).Accounted := by
  by_cases owned : pool.isOwned slot.index = true
  · have fewer := outstanding_release owned
    have room := accounted.room owned
    have permits : (pool.release slot).permits = pool.permits + 1 := by
      rw [Pool.release, if_pos owned]
      exact Nat.min_eq_left room
    rw [Accounted] at accounted ⊢
    omega
  · rw [Pool.release, if_neg owned]
    exact accounted

/-- A reservation succeeds exactly when not all buffers are reserved; otherwise it
leaves the pool as it is. -/
theorem Accounted.reserve_isSome {pool : Pool slots size} (accounted : pool.Accounted) :
    (pool.reserve.1.isSome = true ↔ pool.outstanding < slots) ∧
      (pool.tryReserve.1.isSome = true ↔ pool.outstanding < slots) := by
  have total : pool.permits + pool.outstanding = slots := accounted
  cases left : pool.permits with
  | zero =>
      have full : ¬ pool.outstanding < slots := by omega
      rw [(reserve_of_no_permits left).1, (reserve_of_no_permits left).2]
      simp [full]
  | succ permits =>
      have room : pool.outstanding < slots := by omega
      obtain ⟨slot, after, _, reserved, tried⟩ := accounted.reserve_some left
      rw [reserved, tried]
      simp [room]

end Pool

end UwbRadio
