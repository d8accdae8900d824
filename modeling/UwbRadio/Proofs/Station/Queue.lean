import UwbRadio.Proofs.Link.Acceptance
import UwbRadio.Proofs.Pool.Permits
import UwbRadio.Proofs.Station.Conservation
import UwbRadio.Proofs.Station.Handover

/-!
The queue of answers that wait for processing never overflows. It is as long as the pool
has buffers, and the buffers in it and the one that comes to it are different reserved
ones. So whatever happens in a run, each answer that is accepted while the queue is on
gets in, and they are taken out in the order in which they came.
-/

namespace UwbRadio

open Ranging (WorkItem Queue)

namespace Station

variable {slots size capacity : Nat} {station after : Station slots size capacity}
  {lost : List Slot} {id : TaskId} {slot : Slot}

def accepted? (station : Station slots size capacity) (id : TaskId) : Option Slot :=
  if station.accepts id then (station.task? id).bind Task.slot? else none

/-- The buffer that comes to the queue: of a frame accepted while the queue is on, or one
that the application queues. -/
def joining (station : Station slots size capacity) : Move capacity → Option Slot
  | .step id =>
      if station.link.handler = .ranging ∧ station.link.queue.enabled = true then
        station.accepted? id
      else
        none
  | .push slot => if (station.pushHeld slot).1 then some slot else none
  | _ => none

def leaving (station : Station slots size capacity) (move : Move capacity)
    (after : Station slots size capacity) : Option Slot :=
  match move with
  | .step id =>
      if station.task? id = some (.process .pop) then (after.task? id).bind Task.slot? else none
  | .pop => station.popQueued.1
  | _ => none

def queued (station : Station slots size capacity) : List Slot :=
  station.link.queue.items.map WorkItem.slot

theorem accepted?_eq_some (accepted : station.accepted? id = some slot) :
    ∃ length, station.task? id = some (.interrupt (.readFrame slot length)) ∧
      station.link.accepts (.readFrame slot length) = true := by
  unfold accepted? at accepted
  split at accepted
  · rename_i accepts
    obtain ⟨task, found, accepts⟩ := (Option.any_eq_true _ _).mp accepts
    rw [found, Option.bind_some] at accepted
    cases task with
    | interrupt point =>
        obtain ⟨slot, length, rfl⟩ := Link.copies_of_accepts accepts
        cases accepted
        exact ⟨length, found, accepts⟩
    | _ => cases accepts
  · cases accepted

theorem Balances.room (balances : station.Balances lost) {task : Task}
    (found : station.task? id = some task) (holds : task.slot? = some slot) :
    station.link.queue.items.length < slots ∧ slot ∉ station.queued := by
  have member := mem_inHands (mem_tasks found) holds
  have others : slot ∈ station.held ++ (inHands station.tasks ++ lost) :=
    List.mem_append_right _ (List.mem_append_left _ member)
  constructor
  · have counted := balances.balanced.outstanding_eq
    have bound := station.link.pool.outstanding_le
    have some := List.length_pos_of_mem others
    rw [List.length_append, Link.claims, List.length_append, List.length_map] at counted
    omega
  · intro waits
    exact (balances.alone found holds).1 (List.mem_append_right _ waits)

private theorem push?_eq {queue : Queue slots} (on : queue.enabled = true)
    (room : queue.items.length < slots) (item : WorkItem) :
    queue.push? item = some { queue with items := queue.items ++ [item] } :=
  if_pos ⟨on, room⟩

private theorem push?_off {queue : Queue slots} (off : queue.enabled = false) (item : WorkItem) :
    queue.push? item = none := by
  refine if_neg fun both => ?_
  rw [off] at both
  exact Bool.false_ne_true both.1

/-- The end of an accepted copy, with what it does to the queue and the pool. -/
theorem Balances.accepts (balances : station.Balances lost) (claiming : station.Claiming)
    (accepted : station.accepted? id = some slot) (stepped : station.step? id = some after)
    (ranges : station.link.handler = .ranging) :
    if station.link.queue.enabled = true then
      after.link.queue.items = station.link.queue.items ++ [⟨slot⟩] ∧
        after.link.pool.isOwned slot.index = station.link.pool.isOwned slot.index
    else
      after.link.queue = station.link.queue ∧ after.link.pool.isOwned slot.index = false := by
  obtain ⟨length, found, accepts⟩ := accepted?_eq_some accepted
  have room := (balances.room found rfl).1
  have own := claiming.claims id _ found
  obtain ⟨task, next, given, effect, renames⟩ := balances.orderly.step_task stepped
  have same : task = .interrupt (.readFrame slot length) :=
    Option.some.inj (renames.before.symm.trans found)
  subst same
  have settled {turn : InterruptTurn slots size}
      (turns : Link.InterruptTurns station.link id (.readFrame slot length) turn) :
      turn = .wait ∨
        ∃ middle, Link.Agrees station.link middle ∧ Link.Accepted middle slot turn := by
    rcases turns.copy_goes rfl own with waits | ⟨_, _, _, _, _, refused⟩ |
      ⟨middle, agrees, ⟨_, goes⟩ | ⟨refused, _⟩⟩
    · exact .inl waits
    · rw [accepts] at refused
      cases refused
    · exact .inr ⟨middle, agrees, goes⟩
    · rw [accepts] at refused
      cases refused
  rcases effect.of_interrupt with ⟨later, rfl, turns⟩ | ⟨result, rfl, turns⟩
  · rcases settled turns with waits | ⟨middle, agrees, goes⟩
    · cases waits
    · cases goes with
      | handover transfers =>
          rw [agrees.handler, ranges] at transfers
          cases transfers
  · rcases settled turns with waits | ⟨middle, agrees, goes⟩
    · cases waits
    · cases goes with
      | queued _ pushed queue pool =>
          rw [agrees.queue] at pushed
          cases on : station.link.queue.enabled with
          | false =>
              rw [push?_off on] at pushed
              cases pushed
          | true =>
              rw [push?_eq on room] at pushed
              rw [if_pos rfl, queue, ← Option.some.inj pushed]
              refine ⟨rfl, ?_⟩
              rw [pool]
              exact Pool.isOwned_of_owned_eq agrees.owned _
      | refused _ closed queue pool =>
          rw [agrees.queue] at closed
          cases on : station.link.queue.enabled with
          | false =>
              rw [if_neg Bool.false_ne_true, queue, agrees.queue, pool, Pool.isOwned_release]
              refine ⟨rfl, ?_⟩
              simp
          | true =>
              rw [push?_eq on room] at closed
              cases closed
      | answered pings =>
          rw [agrees.handler, ranges] at pings
          cases pings

theorem accepted?_of_accepts {task : Task} (found : station.task? id = some task) :
    station.accepted? id = if task.accepts station.link then task.slot? else none := by
  rw [accepted?, accepts, found, Option.any_some, Option.bind_some]

private theorem Balances.queue_event (balances : station.Balances lost)
    (claiming : station.Claiming) {point : InterruptPoint}
    (found : station.task? id = some (.interrupt point)) (stepped : station.step? id = some after) :
    after.queued = station.queued ++ (station.joining (.step id)).toList := by
  obtain ⟨task, next, given, effect, renames⟩ := balances.orderly.step_task stepped
  have same : task = .interrupt point := Option.some.inj (renames.before.symm.trans found)
  subst same
  have passes := (effect.passes fun other is => claiming.claims id other (is ▸ found)).queue rfl
  have kept (none : station.joining (.step id) = none)
      (same : after.link.queue = station.link.queue) :
      after.queued = station.queued ++ (station.joining (.step id)).toList := by
    rw [none, queued, queued, same, Option.toList_none, List.append_nil]
  by_cases ranges : station.link.handler = .ranging
  · cases accepted : station.accepted? id with
    | none =>
        have refused : (Task.interrupt point).accepts station.link = false := by
          apply Bool.eq_false_iff.mpr
          intro accepts
          obtain ⟨slot, length, rfl⟩ := Link.copies_of_accepts accepts
          rw [accepted?_of_accepts found, if_pos accepts] at accepted
          cases accepted
        rw [refused] at passes
        refine kept ?_ passes
        simp only [joining, accepted, ite_self]
    | some slot =>
        have goes := balances.accepts claiming accepted stepped ranges
        cases on : station.link.queue.enabled with
        | true =>
            rw [if_pos on] at goes
            rw [joining, if_pos ⟨ranges, on⟩, accepted, queued, goes.1, List.map_append]
            rfl
        | false =>
            rw [if_neg (on ▸ Bool.false_ne_true)] at goes
            refine kept (if_neg fun both => ?_) goes.1
            rw [on] at both
            exact Bool.false_ne_true both.2
  · rw [beq_eq_false_iff_ne.mpr ranges, Bool.and_false] at passes
    exact kept (if_neg fun both => ranges both.1) passes

theorem Balances.queue_step (balances : station.Balances lost) (claiming : station.Claiming)
    (stepped : station.step? id = some after) :
    (station.leaving (.step id) after).toList ++ after.queued =
      station.queued ++ (station.joining (.step id)).toList := by
  obtain ⟨task, next, given, effect, renames⟩ := balances.orderly.step_task stepped
  have found := renames.before
  cases serves : task.servesEvents with
  | true =>
      cases task with
      | interrupt point =>
          have none : station.leaving (.step id) after = none := by
            rw [leaving, found]
            exact if_neg nofun
          rw [none]
          exact balances.queue_event claiming found stepped
      | _ => cases serves
  | false =>
      have nothing : station.joining (.step id) = none := by
        have refused : station.accepted? id = none := by
          rw [accepted?_of_accepts found, Task.accepts_of_no_event serves]
          rfl
        simp only [joining, refused, ite_self]
      have left : station.leaving (.step id) after =
          if task = .process .pop then next.bind Task.slot? else none := by
        rw [leaving, found, renames.later]
        simp only [Option.some.injEq]
      rw [nothing, left, Option.toList_none, List.append_nil]
      have stays (same : after.link.queue = station.link.queue)
          (empty : task = .process .pop → next.bind Task.slot? = none) :
          (if task = .process .pop then next.bind Task.slot? else none).toList ++ after.queued =
            station.queued := by
        have none : (if task = .process .pop then next.bind Task.slot? else none) = none := by
          split
          · rename_i pops
            exact empty pops
          · rfl
        rw [none, queued, queued, same]
        rfl
      cases effect with
      | call calls step goesOn =>
          refine stays (Link.callerTurns_of_eq step).sparesHandler.queue fun pops => ?_
          rw [pops] at calls
          cases calls
      | returned calls step =>
          have spared : station.link.SparesHandler after.link :=
            (Link.callerTurns_of_eq step).sparesHandler
          refine stays spared.queue fun pops => ?_
          rw [pops] at calls
          cases calls
      | event => cases serves
      | handled => cases serves
      | reserved _ linkAfter => exact stays (by rw [linkAfter]) nofun
      | @popped item queue _ popped linkAfter =>
          rw [if_pos rfl, queued, queued, linkAfter]
          unfold Queue.pop? at popped
          split at popped
          · cases popped
          · rename_i first rest items
            cases popped
            rw [items]
            rfl
      | processed _ linkAfter => exact stays (by rw [linkAfter]; rfl) nofun
      | quiet _ _ _ rests linkAfter =>
          refine stays (by rw [linkAfter]) fun _ => ?_
          cases next with
          | none => rfl
          | some other => exact (rests other rfl).2.1

theorem queued_popQueued (station : Station slots size capacity) :
    station.popQueued.1.toList ++ station.popQueued.2.queued = station.queued := by
  unfold popQueued Queue.pop? queued
  cases items : station.link.queue.items with
  | nil =>
      rw [items]
      rfl
  | cons first rest => rfl

theorem queued_pushHeld (station : Station slots size capacity) (slot : Slot) :
    (station.pushHeld slot).2.queued =
      station.queued ++ (if (station.pushHeld slot).1 then some slot else none).toList := by
  unfold pushHeld
  split
  · rename_i queue pushed
    unfold Queue.push? at pushed
    split at pushed
    · cases pushed
      exact List.map_append
    · cases pushed
  · exact (List.append_nil _).symm

theorem Balances.queue_move {move : Move capacity} (balances : station.Balances lost)
    (claiming : station.Claiming) (moved : station.move? move = some after) :
    (station.leaving move after).toList ++ after.queued =
      station.queued ++ (station.joining move).toList := by
  have stays {move : Move capacity} (join : station.joining move = none)
      (leave : station.leaving move after = none)
      (same : after.link.queue.items = station.link.queue.items) :
      (station.leaving move after).toList ++ after.queued =
        station.queued ++ (station.joining move).toList := by
    rw [join, leave, queued, queued, same]
    exact (List.append_nil _).symm
  cases move with
  | step id => exact balances.queue_step claiming moved
  | submit id call =>
      simp only [move?, Option.ite_none_right_eq_some, Option.some.injEq] at moved
      obtain ⟨_, rfl⟩ := moved
      exact stays rfl rfl rfl
  | cancel id =>
      simp only [move?, Option.ite_none_right_eq_some, Option.some.injEq] at moved
      obtain ⟨_, rfl⟩ := moved
      exact stays rfl rfl rfl
  | reserve =>
      cases moved
      refine stays rfl rfl ?_
      unfold tryReserve
      split <;> rfl
  | release slot =>
      simp only [move?, Option.ite_none_right_eq_some, Option.some.injEq] at moved
      obtain ⟨_, rfl⟩ := moved
      exact stays rfl rfl rfl
  | pop =>
      cases moved
      have nothing : station.joining .pop = none := rfl
      rw [nothing, Option.toList_none, List.append_nil]
      exact station.queued_popQueued
  | push slot =>
      simp only [move?, Option.ite_none_right_eq_some, Option.some.injEq] at moved
      obtain ⟨_, rfl⟩ := moved
      exact station.queued_pushHeld slot
  | process id slot =>
      simp only [move?, Option.ite_none_right_eq_some, Option.some.injEq] at moved
      obtain ⟨_, rfl⟩ := moved
      exact stays rfl rfl rfl
  | openSession table config estimator forwards =>
      cases moved
      refine stays rfl rfl ?_
      unfold addSession
      dsimp only
      split <;> rfl
  | _ =>
      cases moved
      exact stays rfl rfl rfl

/-- The buffers that have come to the queue and those that were taken from it, in order. -/
structure Throughput where
  joined : List Slot := []
  left : List Slot := []

def Throughput.note (sofar : Throughput) (station : Station slots size capacity)
    (move : Move capacity) (after : Station slots size capacity) : Throughput :=
  { joined := sofar.joined ++ (station.joining move).toList
    left := sofar.left ++ (station.leaving move after).toList }

def throughput (station : Station slots size capacity) (moves : List (Move capacity)) :
    Throughput :=
  recordOf Throughput.note moves {} station

def pushesNothing : Rule slots size capacity
  | _, .push _ => false
  | _, _ => true

/-- What came to the queue has been taken from it in this order or is still there. -/
structure Queueing (station : Station slots size capacity) (sofar : Throughput) : Prop where
  balances : ∃ lost, station.Balances lost
  claiming : station.Claiming
  order : sofar.joined = sofar.left ++ station.queued

theorem queueing_of_fresh (fresh : station.Fresh) : station.Queueing {} := by
  have conserves := conserves_of_fresh fresh
  refine ⟨⟨[], conserves.orderly, ?_⟩, claiming_of_fresh fresh, ?_⟩
  · rw [List.append_nil]
    exact conserves.balanced
  · obtain ⟨bus, sequence, info, config, handler, rfl⟩ := fresh.eq_ofLink
    rfl

theorem Queueing.move {sofar : Throughput} {move : Move capacity}
    (queueing : station.Queueing sofar) (moved : station.move? move = some after) :
    after.Queueing (sofar.note station move after) := by
  obtain ⟨lost, balances⟩ := queueing.balances
  refine ⟨⟨_, balances.move moved⟩, queueing.claiming.move moved, ?_⟩
  have law := balances.queue_move queueing.claiming moved
  rw [Throughput.note, queueing.order, List.append_assoc, List.append_assoc, law]

theorem queueing_of_run {rule : Rule slots size capacity} {reached : Station slots size capacity}
    {moves : List (Move capacity)} (fresh : station.Fresh)
    (ran : run? rule moves station = some reached) :
    reached.Queueing (station.throughput moves) :=
  run?_invariant Throughput.note (fun sofar station => station.Queueing sofar)
    (fun _ _ _ _ queueing _ moved => queueing.move moved) moves {} (queueing_of_fresh fresh) ran

theorem Claiming.handler_move {move : Move capacity} (claiming : station.Claiming)
    (moved : station.move? move = some after) :
    after.link.handler = station.link.handler := by
  cases claiming.orderly.happens moved with
  | step effect renames =>
      exact (effect.passes fun point is => claiming.claims _ point (is ▸ renames.before)).handler
  | cancel linkAfter => rw [linkAfter]; rfl
  | call _ _ _ linkAfter => rw [linkAfter]
  | action _ acted =>
      obtain ⟨bus, pool, queue, linkAfter⟩ := acted.frame
      rw [linkAfter]

theorem handler_of_run {rule : Rule slots size capacity} {reached : Station slots size capacity}
    {moves : List (Move capacity)} (fresh : station.Fresh)
    (ran : run? rule moves station = some reached) :
    reached.link.handler = station.link.handler :=
  (run?_keeps (fun now => now.Claiming ∧ now.link.handler = station.link.handler)
    (fun _ _ _ both _ moved =>
      ⟨both.1.move moved, (both.1.handler_move moved).trans both.2⟩)
    ⟨claiming_of_fresh fresh, rfl⟩ ran).2

/-- An answer that is accepted while the queue is on finds room in it and comes behind all
others; while it is off its buffer is free again. All that came to the queue have been
taken from it, each once and in their order, or wait in it. -/
theorem queue_takes_every_answer {reached : Station slots size capacity}
    {moves : List (Move capacity)} (fresh : station.Fresh)
    (ranges : station.link.handler = .ranging)
    (ran : run? pushesNothing moves station = some reached) :
    (∀ id slot after, reached.accepted? id = some slot → reached.step? id = some after →
      if reached.link.queue.enabled = true then
        reached.link.queue.items.length < slots ∧ ⟨slot⟩ ∉ reached.link.queue.items ∧
          after.link.queue.items = reached.link.queue.items ++ [⟨slot⟩]
      else
        after.link.queue = reached.link.queue ∧
          after.link.pool.isOwned slot.index = false) ∧
    (station.throughput moves).joined = (station.throughput moves).left ++ reached.queued := by
  have queueing := queueing_of_run fresh ran
  refine ⟨?_, queueing.order⟩
  intro id slot after accepted stepped
  obtain ⟨lost, balances⟩ := queueing.balances
  obtain ⟨length, found, _⟩ := accepted?_eq_some accepted
  have room := balances.room found rfl
  have goes := balances.accepts queueing.claiming accepted stepped
    ((handler_of_run fresh ran).trans ranges)
  split
  · rename_i on
    rw [if_pos on] at goes
    refine ⟨room.1, fun waits => room.2 ?_, goes.1⟩
    exact List.mem_map_of_mem waits
  · rename_i off
    rw [if_neg off] at goes
    exact goes

def hears (caller copier : TaskId) : List (Move 0) :=
  [[.submit caller (.receive .blocking 0)], List.replicate 7 (.step caller),
    [.submit copier (.feed .received)], List.replicate 4 (.step copier)].flatten

/-- Two answers fill the queue, the first is taken and its buffer given back, and a third
one arrives there. -/
def threeAnswers : List (Move 0) :=
  [[.disturb (.registers (RegisterFile.powerUp.receive arriving))], hears 1 2,
    [.step 2, .step 1], hears 3 4, [.step 4, .step 3, .pop, .release ⟨0⟩], hears 5 6].flatten

theorem third_answer_is_queued :
    ∃ station reached after : Station 2 127 0,
      station.Fresh ∧ run? pushesNothing threeAnswers station = some reached ∧
        reached.step? 6 = some after ∧ reached.link.queue.items = [⟨⟨1⟩⟩] ∧
        after.link.queue.items = [⟨⟨1⟩⟩, ⟨⟨0⟩⟩] ∧
        (station.throughput threeAnswers).left ++ reached.queued = [⟨0⟩, ⟨1⟩] := by
  have evaluated : (do
      let station : Station 2 127 0 ← open? Device.unused {} .ranging
      let reached ← run? pushesNothing threeAnswers station
      let after ← reached.step? 6
      return (station.link.handler, reached.accepted? 6, reached.link.queue,
        (station.throughput threeAnswers).joined)) =
      some (.ranging, some ⟨0⟩, { items := [⟨⟨1⟩⟩] }, [⟨0⟩, ⟨1⟩]) := by
    decide +kernel
  obtain ⟨station, opened, evaluated⟩ := Option.bind_eq_some_iff.mp evaluated
  obtain ⟨reached, ran, evaluated⟩ := Option.bind_eq_some_iff.mp evaluated
  obtain ⟨after, stepped, evaluated⟩ := Option.bind_eq_some_iff.mp evaluated
  have seen := Option.some.inj evaluated
  simp only [Prod.mk.injEq] at seen
  obtain ⟨ranges, accepted, queue, joined⟩ := seen
  have fresh := fresh_of_open? opened
  obtain ⟨takes, order⟩ := queue_takes_every_answer fresh ranges ran
  have taken := takes 6 ⟨0⟩ after accepted stepped
  rw [queue, if_pos rfl] at taken
  refine ⟨station, reached, after, fresh, ran, stepped, ?_, taken.2.2, order.symm.trans joined⟩
  rw [queue]

end Station

end UwbRadio
