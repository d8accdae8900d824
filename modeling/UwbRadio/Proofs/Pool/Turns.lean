import UwbRadio.Proofs.Pool.Use

/-!
The buffers of a pool are reserved in turn. A reservation takes the first free buffer
behind the one that was reserved last, so that between two reservations of one buffer
every other has had its turn, unless it was taken when the search came past it.

Searches are followed on an unbounded line, on which the buffer of place `p` is that of
index `p % slots`. The cursor only moves forward there.
-/

namespace UwbRadio

namespace Pool

variable {slots size : Nat}

/-- The buffer is free, and all that come before it from `start` on are reserved. -/
def FirstFree (pool : Pool slots size) (start index : Nat) : Prop :=
  ∃ distance < slots, index = (start + distance) % slots ∧ pool.isOwned index = false ∧
    ∀ nearer < distance, pool.isOwned ((start + nearer) % slots) = true

theorem FirstFree.congr {pool : Pool slots size} {start other index : Nat}
    (first : pool.FirstFree start index) (same : start % slots = other % slots) :
    pool.FirstFree other index := by
  obtain ⟨distance, within, found, free, passed⟩ := first
  have shift (count : Nat) : (start + count) % slots = (other + count) % slots := by
    rw [Nat.add_mod, same, ← Nat.add_mod]
  refine ⟨distance, within, found.trans (shift distance), free, fun nearer before => ?_⟩
  rw [← shift]
  exact passed nearer before

theorem FirstFree.inside {pool : Pool slots size} {start index : Nat}
    (first : pool.FirstFree start index) : index < slots := by
  obtain ⟨distance, within, found, _⟩ := first
  rw [found]
  exact Nat.mod_lt _ (by omega)

/-- A reservation of the first free buffer, behind which the next one starts to look. -/
structure TakesFirst (pool : Pool slots size) (slot : Slot) (after : Pool slots size) : Prop where
  first : pool.FirstFree pool.cursor slot.index
  cursor : after.cursor = (slot.index + 1) % slots

theorem claim?_takesFirst {pool after : Pool slots size} {slot : Slot}
    (claimed : pool.claim? = some (slot, after)) : pool.TakesFirst slot after := by
  unfold claim? searchOrder at claimed
  obtain ⟨index, found, same⟩ := Option.map_eq_some_iff.mp claimed
  rw [List.find?_map] at found
  obtain ⟨distance, searched, place⟩ := Option.map_eq_some_iff.mp found
  obtain ⟨free, within, passed⟩ := List.find?_range_eq_some.mp searched
  cases same
  refine ⟨⟨distance, List.mem_range.mp within, place.symm, ?_, ?_⟩, rfl⟩
  · rw [← place]
    simpa using free
  · intro nearer before
    simpa using passed nearer before

theorem Attempts.takesFirst {pool after : Pool slots size} {slot : Slot}
    (attempts : pool.Attempts (some slot) after) : pool.TakesFirst slot after := by
  cases attempts with
  | claims claimed =>
      have takes := claim?_takesFirst claimed
      exact ⟨takes.first, takes.cursor⟩

theorem Attempts.cursor {pool after : Pool slots size} (attempts : pool.Attempts none after) :
    after.cursor = pool.cursor := by
  cases attempts
  rfl

theorem release_cursor (pool : Pool slots size) (slot : Slot) :
    (pool.release slot).cursor = pool.cursor := by
  unfold release
  split <;> rfl

end Pool

structure Reservation (slots size : Nat) where
  pool : Pool slots size
  index : Nat

namespace Reservation

variable {slots size : Nat}

/-- Each reservation takes the first free buffer behind the one taken before it, the
first of them from `start` on. -/
def InTurn (start : Nat) : List (Reservation slots size) → Prop
  | [] => True
  | made :: later => made.pool.FirstFree start made.index ∧ InTurn (made.index + 1) later

theorem InTurn.congr {start other : Nat} {log : List (Reservation slots size)}
    (turns : InTurn start log) (same : start % slots = other % slots) : InTurn other log := by
  cases log with
  | nil => exact trivial
  | cons made later => exact ⟨turns.1.congr same, turns.2⟩

theorem InTurn.suffix {start : Nat} {before later : List (Reservation slots size)}
    (turns : InTurn start (before ++ later)) : ∃ next, InTurn next later := by
  induction before generalizing start with
  | nil => exact ⟨start, turns⟩
  | cons made before ih => exact ih turns.2

/-- From `start` on a search comes past `other` before it comes to `index`. -/
def Sooner (slots start other index : Nat) : Prop :=
  ∃ place, start ≤ place ∧ place % slots = other ∧
    ∀ later, start ≤ later → later % slots = index → place < later

theorem sooner_behind {other index : Nat} (inside : other < slots) (known : index < slots)
    (different : other ≠ index) : Sooner slots (index + 1) other index := by
  -- A place of `index` that lies behind it is at least one round on.
  have round {later : Nat} (behind : index + 1 ≤ later) (again : later % slots = index) :
      index + slots ≤ later := by
    have split := Nat.div_add_mod later slots
    rw [again] at split
    have turns : later / slots ≠ 0 := by
      intro none
      rw [none, Nat.mul_zero] at split
      omega
    have whole : slots * 1 ≤ slots * (later / slots) :=
      Nat.mul_le_mul_left slots (Nat.one_le_iff_ne_zero.mpr turns)
    omega
  by_cases above : index < other
  · refine ⟨other, above, Nat.mod_eq_of_lt inside, fun later behind again => ?_⟩
    have far := round behind again
    omega
  · have below : other < index := by omega
    refine ⟨other + slots, by omega, ?_, fun later behind again => ?_⟩
    · rw [Nat.add_mod_right, Nat.mod_eq_of_lt inside]
    · have far := round behind again
      omega

/-- A search does not come past a free buffer. If it does not take that one, it stops
sooner, and the next search goes on from there. -/
theorem Sooner.step {pool : Pool slots size} {start other index taken : Nat}
    (sooner : Sooner slots start other index) (first : pool.FirstFree start taken)
    (free : pool.isOwned other = false) (spared : taken ≠ other) :
    taken ≠ index ∧
      ∃ next, next % slots = (taken + 1) % slots ∧ Sooner slots next other index := by
  obtain ⟨place, ahead, here, before⟩ := sooner
  obtain ⟨distance, _, found, _, passed⟩ := first
  have stopped : start + distance < place := by
    by_contra beyond
    rcases Nat.lt_or_eq_of_le (Nat.le_of_not_lt beyond) with nearer | same
    · have owned := passed (place - start) (by omega)
      rw [Nat.add_sub_cancel' ahead, here, free] at owned
      cases owned
    · rw [← same, here] at found
      exact spared found
  refine ⟨?_, start + distance + 1, ?_, place, stopped, here, ?_⟩
  · intro hit
    have late := before (start + distance) (Nat.le_add_right _ _) (found.symm.trans hit)
    omega
  · rw [found, Nat.mod_add_mod]
  · intro later behind
    exact before later (by omega)

/-- As long as a buffer is free whenever a reservation is made, and none of them takes it,
no reservation takes a buffer that a search would have come to later. -/
theorem InTurn.not_passed_over {start other : Nat} {between later : List (Reservation slots size)}
    {last : Reservation slots size} (turns : InTurn start (between ++ last :: later))
    (sooner : Sooner slots start other last.index) (different : other ≠ last.index)
    (spared : ∀ made ∈ between, made.index ≠ other) :
    ∃ made ∈ between ++ [last], made.pool.isOwned other = true := by
  by_contra none
  have free : ∀ made ∈ between ++ [last], made.pool.isOwned other = false := by
    intro made member
    by_contra owned
    exact none ⟨made, member, by simpa using owned⟩
  clear none
  induction between generalizing start with
  | nil =>
      have taken := sooner.step turns.1 (free last List.mem_cons_self) (Ne.symm different)
      exact taken.1 rfl
  | cons made between ih =>
      obtain ⟨_, next, same, onward⟩ := sooner.step turns.1 (free made List.mem_cons_self)
        (spared made List.mem_cons_self)
      exact ih (turns.2.congr same.symm) onward
        (fun later member => spared later (List.mem_cons_of_mem _ member))
        (fun later member => free later (List.mem_cons_of_mem _ member))

end Reservation

namespace PoolUse

variable {slots size : Nat}

def reserved? (use : PoolUse slots size) : PoolMove → Option Slot
  | .tryReserve => use.pool.tryReserve.1
  | .poll _ => use.pool.reserve.1
  | .start _ | .cancel _ | .release _ | .releaseForeign _ => none

def reservations : List PoolMove → PoolUse slots size → List (Reservation slots size)
  | [], _ => []
  | move :: rest, use =>
      match use.move? move with
      | none => []
      | some next =>
          ((use.reserved? move).map fun slot => ⟨use.pool, slot.index⟩).toList ++
            reservations rest next

theorem next_takesFirst {use : PoolUse slots size} {move : PoolMove} {slot : Slot}
    (reserved : use.reserved? move = some slot) :
    use.pool.TakesFirst slot (use.next move).pool := by
  cases move with
  | tryReserve => exact (Pool.attempts_of_tryReserve (Prod.ext reserved rfl)).takesFirst
  | poll task =>
      rw [next, poll_pool]
      exact (Pool.attempts_of_reserve (Prod.ext reserved rfl)).takesFirst
  | start task => cases reserved
  | cancel task => cases reserved
  | release slot => cases reserved
  | releaseForeign slot => cases reserved

theorem next_cursor {use : PoolUse slots size} {move : PoolMove}
    (none : use.reserved? move = none) : (use.next move).pool.cursor = use.pool.cursor := by
  cases move with
  | tryReserve => exact (Pool.attempts_of_tryReserve (Prod.ext none rfl)).cursor
  | poll task =>
      rw [next, poll_pool]
      exact (Pool.attempts_of_reserve (Prod.ext none rfl)).cursor
  | start task => rfl
  | cancel task => rfl
  | release slot => exact use.pool.release_cursor slot
  | releaseForeign slot => exact use.pool.release_cursor slot

theorem inTurn_reservations (moves : List PoolMove) (use : PoolUse slots size) :
    Reservation.InTurn use.pool.cursor (reservations moves use) := by
  induction moves generalizing use with
  | nil => exact trivial
  | cons move rest ih =>
      rw [reservations]
      split
      · exact trivial
      · rename_i next moved
        obtain ⟨_, rfl⟩ := move?_eq_some.mp moved
        have later := ih (use.next move)
        cases reserved : use.reserved? move with
        | none =>
            rw [next_cursor reserved] at later
            exact later
        | some slot =>
            have takes := next_takesFirst reserved
            rw [takes.cursor] at later
            exact ⟨takes.first, later.congr (Nat.mod_mod _ _)⟩

/-- Every reservation takes the first free buffer in cyclic order behind the one reserved
last, the first of all from the start of the pool. So between two reservations of one buffer
every other buffer was reserved too, or was still reserved when one of the later
reservations up to the second was made: no free buffer is passed over. -/
theorem no_free_buffer_passed_over (moves : List PoolMove) :
    (∀ made later, reservations moves (fresh slots size) = made :: later →
      made.pool.FirstFree 0 made.index) ∧
    (∀ (before : List (Reservation slots size)) previous made later,
      reservations moves (fresh slots size) = before ++ previous :: made :: later →
      made.pool.FirstFree (previous.index + 1) made.index) ∧
    ∀ (before between later : List (Reservation slots size))
      (first second : Reservation slots size),
      reservations moves (fresh slots size) = before ++ first :: between ++ second :: later →
      first.index = second.index → ∀ other < slots, other ≠ first.index →
        (∃ made ∈ between, made.index = other) ∨
          ∃ made ∈ between ++ [second], made.pool.isOwned other = true := by
  have turns := inTurn_reservations moves (fresh slots size)
  refine ⟨?_, ?_, ?_⟩
  · intro made later log
    rw [log] at turns
    exact turns.1
  · intro before previous made later log
    rw [log] at turns
    obtain ⟨_, _, behind⟩ := turns.suffix
    exact behind.1
  · intro before between later first second log same other inside different
    rw [log, List.append_assoc, List.cons_append] at turns
    obtain ⟨_, took, behind⟩ := turns.suffix
    by_cases taken : ∃ made ∈ between, made.index = other
    · exact .inl taken
    · have sooner := Reservation.sooner_behind inside took.inside different
      rw [same] at sooner different behind
      exact .inr (behind.not_passed_over sooner different
        fun made member here => taken ⟨made, member, here⟩)

def turnedOver : List PoolMove :=
  [.tryReserve, .tryReserve, .tryReserve, .release ⟨1⟩, .tryReserve]

theorem turnedOver_passes_reserved_buffer :
    ∃ first second third again : Reservation 3 16,
      reservations turnedOver (fresh 3 16) = [first] ++ second :: [third] ++ again :: [] ∧
      second.index = 1 ∧ third.index = 2 ∧ again.index = 1 ∧
      again.pool.FirstFree 3 again.index ∧
      ∃ made ∈ [third] ++ [again], made.pool.isOwned 0 = true := by
  have evaluated : (reservations turnedOver (fresh 3 16)).map Reservation.index =
      [0, 1, 2, 1] := by
    cbv
  simp only [List.map_eq_cons_iff, List.map_eq_nil_iff] at evaluated
  obtain ⟨first, _, log, _, second, _, rfl, secondIndex, third, _, rfl, thirdIndex, again, _, rfl,
    againIndex, rfl⟩ := evaluated
  obtain ⟨_, behind, passed⟩ := @no_free_buffer_passed_over 3 16 turnedOver
  have turn := behind [first, second] third again [] log
  rw [thirdIndex] at turn
  refine ⟨first, second, third, again, log, secondIndex, thirdIndex, againIndex, turn, ?_⟩
  rcases passed [first] [third] [] second again log (secondIndex.trans againIndex.symm) 0
    (by decide) (by omega) with ⟨made, member, taken⟩ | owned
  · cases List.mem_singleton.mp member
    omega
  · exact owned

end PoolUse

end UwbRadio
