import Mathlib
import UwbRadio.Proofs.Pool.Permits
import UwbRadio.Waiters

/-!
A pool in use by tasks that reserve and release its buffers in any order. A
reservation that has to wait is polled whenever its task is scheduled and may be
dropped at any time. A buffer that has been handed out is given back by the right to
it; a right of another pool may also come in, with any index.
-/

namespace UwbRadio

structure PoolUse (slots size : Nat) where
  waiters : Waiters (Pool slots size)
  tokens : List Slot := []

inductive PoolMove
  | tryReserve
  | start (task : TaskId)
  | poll (task : TaskId)
  | cancel (task : TaskId)
  | release (slot : Slot)
  | releaseForeign (slot : Slot)
  deriving DecidableEq

namespace PoolUse

variable {slots size : Nat}

def fresh (slots size : Nat) : PoolUse slots size :=
  { waiters := { resource := .empty slots size } }

abbrev pool (use : PoolUse slots size) : Pool slots size :=
  use.waiters.resource

def onPool (use : PoolUse slots size) (pool : Pool slots size) : PoolUse slots size :=
  { use with waiters := { use.waiters with resource := pool } }

def keep (use : PoolUse slots size) (attempt : Option Slot × Pool slots size) :
    PoolUse slots size :=
  { use.onPool attempt.2 with tokens := attempt.1.toList ++ use.tokens }

def poll (use : PoolUse slots size) (task : TaskId) : PoolUse slots size :=
  let attempt := use.pool.reserve
  let after := use.keep attempt
  if attempt.1.isSome then { after with waiters := after.waiters.cancel task } else after

/-- Only a reservation that waits is polled or dropped, and only a right handed out
comes back as one. -/
def allows (use : PoolUse slots size) : PoolMove → Bool
  | .start task => !use.waiters.waits task
  | .poll task | .cancel task => use.waiters.waits task
  | .release slot => use.tokens.contains slot
  | .tryReserve | .releaseForeign _ => true

def next (use : PoolUse slots size) : PoolMove → PoolUse slots size
  | .tryReserve => use.keep use.pool.tryReserve
  | .start task => { use with waiters := use.waiters.start task }
  | .poll task => use.poll task
  | .cancel task => { use with waiters := use.waiters.cancel task }
  | .release slot =>
      { use.onPool (use.pool.release slot) with tokens := use.tokens.erase slot }
  | .releaseForeign slot => use.onPool (use.pool.release slot)

def move? (use : PoolUse slots size) (move : PoolMove) : Option (PoolUse slots size) :=
  if use.allows move then some (use.next move) else none

theorem move?_eq_some {use after : PoolUse slots size} {move : PoolMove} :
    use.move? move = some after ↔ use.allows move = true ∧ use.next move = after := by
  rw [move?, Option.ite_none_right_eq_some, Option.some.injEq]

def run? : List PoolMove → PoolUse slots size → Option (PoolUse slots size)
  | [], use => some use
  | move :: rest, use => (use.move? move).bind (run? rest)

theorem run?_keeps {allowed : PoolMove → Prop} (Holds : PoolUse slots size → Prop)
    (kept : ∀ use move next, Holds use → allowed move → use.move? move = some next → Holds next)
    {moves : List PoolMove} :
    ∀ {use after : PoolUse slots size}, Holds use → (∀ move ∈ moves, allowed move) →
      run? moves use = some after → Holds after := by
  induction moves with
  | nil =>
      intro use after holds _ ran
      cases ran
      exact holds
  | cons move rest ih =>
      intro use after holds within ran
      obtain ⟨next, moved, ran⟩ := Option.bind_eq_some_iff.mp ran
      have first := kept use move next holds (within move List.mem_cons_self) moved
      exact ih first (fun later member => within later (List.mem_cons_of_mem _ member)) ran

theorem poll_pool (use : PoolUse slots size) (task : TaskId) :
    (use.poll task).pool = use.pool.reserve.2 := by
  unfold poll
  dsimp only
  split <;> rfl

theorem accounted_next {use : PoolUse slots size} (accounted : use.pool.Accounted)
    (move : PoolMove) : (use.next move).pool.Accounted := by
  cases move with
  | tryReserve => exact accounted.tryReserve
  | start task => exact accounted
  | poll task => exact use.poll_pool task ▸ accounted.reserve
  | cancel task => exact accounted
  | release slot => exact accounted.release slot
  | releaseForeign slot => exact accounted.release slot

theorem accounted_of_run {moves : List PoolMove} {use : PoolUse slots size}
    (ran : run? moves (fresh slots size) = some use) : use.pool.Accounted :=
  run?_keeps (fun use => use.pool.Accounted)
    (fun _ move _ accounted (_ : True) moved =>
      (move?_eq_some.mp moved).2 ▸ accounted_next accounted move)
    Pool.accounted_empty (fun _ _ => trivial) ran

/-- A poll ends the reservation if a buffer is free. If not, it leaves everything as
it is. -/
theorem poll_cases {use : PoolUse slots size} (accounted : use.pool.Accounted) (task : TaskId) :
    if use.pool.outstanding < slots then (use.poll task).waiters.waits task = false
    else use.poll task = use := by
  unfold poll
  dsimp only
  split
  · rename_i room
    rw [if_pos (accounted.reserve_isSome.1.mpr room)]
    simp [Waiters.waits, Waiters.cancel]
  · rename_i full
    have total : use.pool.permits + use.pool.outstanding = slots := accounted
    have bound := use.pool.outstanding_le
    have empty : use.pool.permits = 0 := by omega
    rw [(Pool.reserve_of_no_permits empty).1]
    rfl

/-- Every right handed out is to a buffer of its own, and no other is reserved. -/
structure Exclusive (use : PoolUse slots size) : Prop where
  apart : (use.tokens.map Slot.index).Nodup
  owned : ∀ index, use.pool.isOwned index = true ↔ index ∈ use.tokens.map Slot.index

theorem exclusive_fresh : (fresh slots size).Exclusive where
  apart := List.nodup_nil
  owned index := by
    rw [show (fresh slots size).pool = .empty slots size from rfl, Pool.isOwned_empty]
    simp [fresh]

theorem Exclusive.of_same {use next : PoolUse slots size} (exclusive : use.Exclusive)
    (owned : next.pool.owned = use.pool.owned) (tokens : next.tokens = use.tokens) :
    next.Exclusive where
  apart := tokens ▸ exclusive.apart
  owned index := by
    rw [Pool.isOwned_of_owned_eq owned, tokens]
    exact exclusive.owned index

theorem Exclusive.reserves {use next : PoolUse slots size} {slot : Slot}
    (exclusive : use.Exclusive) (reserves : use.pool.Reserves slot next.pool)
    (tokens : next.tokens = slot :: use.tokens) : next.Exclusive where
  apart := by
    rw [tokens, List.map_cons, List.nodup_cons, ← exclusive.owned, reserves.free]
    exact ⟨Bool.false_ne_true, exclusive.apart⟩
  owned index := by
    rw [reserves.owns, tokens, List.map_cons, List.mem_cons, ← exclusive.owned, Bool.or_eq_true,
      beq_iff_eq, or_comm]

theorem Exclusive.release {use next : PoolUse slots size} {slot : Slot}
    (exclusive : use.Exclusive) (held : slot ∈ use.tokens)
    (pool : next.pool = use.pool.release slot) (tokens : next.tokens = use.tokens.erase slot) :
    next.Exclusive := by
  have listed : (use.tokens.map Slot.index).Perm (slot.index :: next.tokens.map Slot.index) := by
    rw [tokens]
    exact (List.perm_cons_erase held).map Slot.index
  have apart := listed.nodup_iff.mp exclusive.apart
  refine ⟨(List.nodup_cons.mp apart).2, fun index => ?_⟩
  rw [pool, Pool.isOwned_release, Bool.and_eq_true, bne_iff_ne, exclusive.owned, listed.mem_iff,
    List.mem_cons]
  constructor
  · rintro ⟨here | other, different⟩
    · exact absurd here different
    · exact other
  · intro other
    refine ⟨.inr other, fun here => ?_⟩
    exact (List.nodup_cons.mp apart).1 (here ▸ other)

theorem exclusive_next {use : PoolUse slots size} {move : PoolMove} (exclusive : use.Exclusive)
    (allowed : use.allows move = true) (own : ∀ slot, move ≠ .releaseForeign slot) :
    (use.next move).Exclusive := by
  cases move with
  | tryReserve =>
      cases attempt : use.pool.tryReserve with
      | mk given after =>
          simp only [next, attempt]
          cases given with
          | none => exact exclusive.of_same (Pool.tryReserve_none attempt) rfl
          | some slot => exact exclusive.reserves (Pool.tryReserve_reserves attempt) rfl
  | start task => exact exclusive.of_same rfl rfl
  | poll task =>
      cases attempt : use.pool.reserve with
      | mk given after =>
          simp only [next, poll, attempt]
          cases given with
          | none => exact exclusive.of_same (Pool.reserve_none attempt) rfl
          | some slot => exact exclusive.reserves (Pool.reserve_reserves attempt) rfl
  | cancel task => exact exclusive.of_same rfl rfl
  | release slot => exact exclusive.release (List.contains_iff_mem.mp allowed) rfl rfl
  | releaseForeign slot => exact absurd rfl (own slot)

theorem exclusive_of_run {moves : List PoolMove} {use : PoolUse slots size}
    (own : ∀ slot, PoolMove.releaseForeign slot ∉ moves)
    (ran : run? moves (fresh slots size) = some use) : use.Exclusive :=
  run?_keeps Exclusive
    (fun _ _ _ exclusive (own : ∀ slot, _ ≠ PoolMove.releaseForeign slot) moved =>
      (move?_eq_some.mp moved).2 ▸ exclusive_next exclusive (move?_eq_some.mp moved).1 own)
    exclusive_fresh (fun _ member slot same => own slot (same ▸ member)) ran

/-- Permits and reserved buffers always make up the pool, whatever rights come in.
So a permit that is taken is never in vain, there is always room for one that is given
back, a reservation is made exactly when a buffer is free, and one that waits or is
dropped costs nothing. As long as only the pool's own rights come in, the ones handed
out are to different buffers, which are the reserved ones. -/
theorem account_of_run {moves : List PoolMove} {use : PoolUse slots size}
    (ran : run? moves (fresh slots size) = some use) :
    use.pool.permits + use.pool.outstanding = slots ∧
      (∀ permits, use.pool.permits = permits + 1 →
        ({ use.pool with permits } : Pool slots size).claim?.isSome = true) ∧
      (∀ slot : Slot, use.pool.isOwned slot.index = true → use.pool.permits < slots) ∧
      (use.pool.tryReserve.1.isSome = true ↔ use.pool.outstanding < slots) ∧
      (∀ task after, use.move? (.poll task) = some after →
        (after.waiters.waits task = false ↔ use.pool.outstanding < slots) ∧
          (after.waiters.waits task = true → after.pool = use.pool)) ∧
      (∀ task after, use.move? (.cancel task) = some after → after.pool = use.pool) ∧
      ((∀ slot, PoolMove.releaseForeign slot ∉ moves) →
        (use.tokens.map Slot.index).Nodup ∧
          (∀ index ∈ use.tokens.map Slot.index, index < slots) ∧
          ∀ index, use.pool.isOwned index = true ↔ index ∈ use.tokens.map Slot.index) := by
  have accounted := accounted_of_run ran
  refine ⟨accounted, fun _ left => accounted.claim?_isSome left,
    fun _ owned => accounted.room owned, accounted.reserve_isSome.2, ?_, ?_, ?_⟩
  · intro task after polled
    obtain ⟨waits, rfl⟩ := move?_eq_some.mp polled
    have waits : use.waiters.waits task = true := waits
    have outcome := poll_cases accounted task
    rw [next]
    split at outcome
    · rename_i room
      simp [outcome, room]
    · rename_i full
      simp [outcome, waits, full]
  · intro task after dropped
    obtain ⟨_, rfl⟩ := move?_eq_some.mp dropped
    rfl
  · intro own
    have exclusive := exclusive_of_run own ran
    exact ⟨exclusive.apart,
      fun index member => Pool.isOwned_lt ((exclusive.owned index).mpr member), exclusive.owned⟩

/-- Two tasks wait while a pool of one buffer is used up; one of them is dropped, the
buffer comes back and the other gets it. -/
def contested : List PoolMove :=
  [.start 1, .tryReserve, .start 2, .poll 2, .poll 1, .cancel 1, .release ⟨0⟩, .poll 2]

theorem account_of_contested :
    ∃ use : PoolUse 1 16, run? contested (fresh 1 16) = some use ∧
      use.tokens = [⟨0⟩] ∧ use.pool.permits = 0 ∧ use.pool.outstanding = 1 ∧
        ∀ index, use.pool.isOwned index = true ↔ index ∈ use.tokens.map Slot.index := by
  have evaluated : (run? contested (fresh 1 16)).map (fun use => (use.tokens, use.pool.permits)) =
      some ([⟨0⟩], 0) := by
    cbv
  obtain ⟨use, ran, seen⟩ := Option.map_eq_some_iff.mp evaluated
  obtain ⟨tokens, permits⟩ := Prod.mk.injEq _ _ _ _ ▸ seen
  have account := account_of_run ran
  refine ⟨use, ran, tokens, permits, ?_, ?_⟩
  · have total := account.1
    omega
  · exact (account.2.2.2.2.2.2 (by simp [contested])).2.2

/-- A foreign right with the index of a buffer that is reserved frees that buffer: the
permits stay in step, but the own right to it is left over. -/
example :
    (run? [.tryReserve, .releaseForeign ⟨0⟩, .tryReserve] (fresh 2 16)).map
      (fun use => (use.tokens, use.pool.permits, use.pool.outstanding)) =
    some ([⟨1⟩, ⟨0⟩], 1, 1) := by
  cbv

end PoolUse

end UwbRadio
