import Mathlib
import UwbRadio.Proofs.Link.Drain
import UwbRadio.Proofs.Station.Between
import UwbRadio.Proofs.Station.Loss
import UwbRadio.Proofs.Station.Report

/-!
Late events leave no trace. When no caller expects an event and no frame is copied, any
number of events may come in: an idle or finished link stays as it is, an abandoned one
gives its buffer back with the first event that ends it. The next transaction begins as
if none had come.
-/

namespace UwbRadio

def Task.sparesBuffers (task : Task) : Bool :=
  task.slot?.isNone && task != .reserve

theorem Effect.sparesBuffers {slots size : Nat} {link after : Link slots size} {id : TaskId}
    {task : Task} {next : Option Task} {given : Option Slot}
    (effect : Effect link id task after next given) (spares : task.sparesBuffers = true)
    (noCall : task.call? = none) (settled : link.phase.settled = true) :
    after.reservedBeside = link.reservedBeside ∧ after.phase.settled = true := by
  rw [Task.sparesBuffers, Bool.and_eq_true] at spares
  have empty := Option.isNone_iff_eq_none.mp spares.1
  cases effect with
  | call calls => rw [noCall] at calls; cases calls
  | returned calls => rw [noCall] at calls; cases calls
  | event stepped => exact (Link.interruptTurns_of_eq stepped).settles settled empty
  | handled stepped => exact (Link.interruptTurns_of_eq stepped).settles settled empty
  | reserved => cases spares.2
  | popped popped linkAfter => rw [linkAfter]; exact ⟨rfl, settled⟩
  | processed => cases empty
  | quiet noCall noSlot noEvent rests linkAfter => rw [linkAfter]; exact ⟨rfl, settled⟩

namespace Station

variable {slots size capacity : Nat} {station after : Station slots size capacity}

def event? (station : Station slots size capacity) (id : TaskId) : Option Event :=
  match station.task? id with
  | some (.interrupt (.event event)) => some event
  | _ => none

/-- Events are fed in, and calls come up. No other task goes on. -/
def feedsOnly : Rule slots size capacity
  | _, .submit _ _ => true
  | station, .step id => (station.event? id).isSome
  | _, _ => false

def feedIn (events : List Event) (station : Station slots size capacity) (move : Move capacity)
    (_ : Station slots size capacity) : List Event :=
  match move with
  | .step id => events ++ (station.event? id).toList
  | _ => events

def fedIn (station : Station slots size capacity) (moves : List (Move capacity)) : List Event :=
  recordOf feedIn moves [] station

theorem task_of_event? {id : TaskId} {event : Event} (feeds : station.event? id = some event) :
    station.task? id = some (.interrupt (.event event)) := by
  unfold event? at feeds
  split at feeds
  · rename_i fed found
    cases feeds
    exact found
  · cases feeds

theorem Orderly.link_of_feeding {id : TaskId} {event : Event} (orderly : station.Orderly)
    (settled : station.link.phase.settled = true) (feeds : station.event? id = some event)
    (stepped : station.step? id = some after) : after.link = station.link.drained [event] := by
  obtain ⟨task, next, given, effect, renames⟩ := orderly.step_task stepped
  have fed := Link.feed_settled settled event
  have same : task = .interrupt (.event event) :=
    Option.some.inj (renames.before.symm.trans (task_of_event? feeds))
  subst same
  rcases effect.of_interrupt with ⟨later, rfl, turns⟩ | ⟨result, rfl, turns⟩
  · cases turns with
    | event found =>
        rw [← found.turn_eq] at fed
        cases fed
  · cases turns with
    | event found =>
        rw [← found.turn_eq] at fed
        exact (Turn.done.inj fed).1

theorem Orderly.link_of_fedIn {moves : List (Move capacity)} (orderly : station.Orderly)
    (settled : station.link.phase.settled = true)
    (ran : run? feedsOnly moves station = some after) :
    after.link = station.link.drained (station.fedIn moves) := by
  have kept : after.Orderly ∧ after.link = station.link.drained (station.fedIn moves) := by
    refine run?_invariant feedIn
      (fun events later => later.Orderly ∧ later.link = station.link.drained events)
      ?_ moves [] ⟨orderly, ?_⟩ ran
    · rintro events middle move next ⟨orderly, same⟩ allowed moved
      refine ⟨orderly.move moved, ?_⟩
      cases move with
      | submit id call =>
          simp only [move?, Option.ite_none_right_eq_some, Option.some.injEq] at moved
          obtain ⟨_, rfl⟩ := moved
          exact same
      | step id =>
          obtain ⟨event, feeds⟩ := Option.isSome_iff_exists.mp allowed
          have still : middle.link.phase.settled = true := by
            rw [same]
            exact Link.settled_drained settled events
          rw [orderly.link_of_feeding still feeds moved, same, Link.drained_drained, feedIn, feeds,
            Option.toList_some]
      | _ => cases allowed
    · have nothing : station.link.phase.closedBy [] = false := by
        cases station.link.phase <;> rfl
      rw [Link.drained_of_unclosed nothing]
  exact kept.2

/-- No transaction begins, and only callers and the event side have to do with the
buffers. Any task may be dropped. -/
def preparesOnly : Rule slots size capacity
  | station, .step id =>
      opensNone station (.step id) && (station.task? id).all Task.sparesBuffers
  | _, .reserve | _, .release _ => false
  | _, _ => true

theorem opensNone_of_preparesOnly {move : Move capacity}
    (allowed : preparesOnly station move = true) : opensNone station move = true := by
  cases move with
  | step id => exact (Bool.and_eq_true_iff.mp allowed).1
  | _ => rfl

/-- No transaction is under way with its caller and no frame is copied, and the buffers
that somebody has apart from the phase are those of a first link. -/
structure Undisturbed (first : Link slots size) (station : Station slots size capacity) :
    Prop where
  between : station.Between first.sequence
  settled : station.link.phase.settled = true
  beside : station.link.reservedBeside = first.reservedBeside

private theorem beside_of_move? {move : Move capacity} (allowed : preparesOnly station move = true)
    (moved : station.move? move = some after) (unstepped : ∀ id, move ≠ .step id) :
    after.link.reservedBeside = station.link.reservedBeside ∧
      after.link.phase = station.link.phase := by
  cases move with
  | step id => exact absurd rfl (unstepped id)
  | reserve => cases allowed
  | release slot => cases allowed
  | submit id call =>
      simp only [move?, Option.ite_none_right_eq_some, Option.some.injEq] at moved
      obtain ⟨_, rfl⟩ := moved
      exact ⟨rfl, rfl⟩
  | cancel id =>
      simp only [move?, Option.ite_none_right_eq_some, Option.some.injEq] at moved
      obtain ⟨_, rfl⟩ := moved
      exact ⟨rfl, rfl⟩
  | pop =>
      cases moved
      unfold popQueued
      split <;> exact ⟨rfl, rfl⟩
  | push slot =>
      simp only [move?, Option.ite_none_right_eq_some, Option.some.injEq] at moved
      obtain ⟨_, rfl⟩ := moved
      unfold pushHeld
      split <;> exact ⟨rfl, rfl⟩
  | process id slot =>
      simp only [move?, Option.ite_none_right_eq_some, Option.some.injEq] at moved
      obtain ⟨_, rfl⟩ := moved
      exact ⟨rfl, rfl⟩
  | openSession table config estimator forwards =>
      cases moved
      unfold addSession
      dsimp only
      split <;> exact ⟨rfl, rfl⟩
  | _ =>
      cases moved
      exact ⟨rfl, rfl⟩

variable {first : Link slots size}

theorem Undisturbed.move {move : Move capacity} (undisturbed : station.Undisturbed first)
    (allowed : preparesOnly station move = true) (moved : station.move? move = some after) :
    after.Undisturbed first := by
  have between := undisturbed.between.move (opensNone_of_preparesOnly allowed) moved
  have kept (same : after.link.reservedBeside = station.link.reservedBeside ∧
      after.link.phase.settled = true) : after.Undisturbed first :=
    ⟨between, same.2, same.1.trans undisturbed.beside⟩
  cases move with
  | step id =>
      obtain ⟨task, next, given, effect, renames⟩ := undisturbed.between.orderly.step_task moved
      have own := call?_of_task renames.before
      cases calls : task.call? with
      | none =>
          have spares : task.sparesBuffers = true := by
            have all := (Bool.and_eq_true_iff.mp allowed).2
            rw [renames.before] at all
            exact all
          exact kept (effect.sparesBuffers spares calls undisturbed.settled)
      | some call =>
          obtain ⟨exchange, point⟩ := call
          rw [calls] at own
          have settles {turn : CallerTurn slots size}
              (stepped : station.link.callerStep id exchange point = turn) :
              station.link.Settles turn :=
            (Link.callerTurns_of_eq stepped).settles
              (undisturbed.between.orderly.admits_call own)
              (undisturbed.between.calls id exchange point own).1
          rcases effect.of_call_step calls with ⟨other, later, rfl, goesOn, stepped⟩ |
            ⟨result, rests, stepped⟩
          · obtain ⟨beside, still⟩ := settles stepped
            have asks := (call?_of_task renames.later).trans goesOn
            exact kept ⟨beside, still (between.calls id exchange later asks).1⟩
          · exact kept (settles stepped)
  | _ =>
      obtain ⟨beside, phase⟩ := beside_of_move? allowed moved nofun
      exact kept ⟨beside, phase ▸ undisturbed.settled⟩

theorem Undisturbed.begins {id : TaskId} {exchange : Exchange} {point : CallerPoint}
    (undisturbed : station.Undisturbed first) (telling : station.Telling)
    (stepped : station.step? id = some after)
    (calls : after.call? id = some (exchange, point)) (begun : point.begun = true) :
    after.BeginsWith first.sequence exchange point ∧ after.link.status = Status.initialized ∧
      after.link.reservedBeside = first.reservedBeside := by
  obtain ⟨earlier, asked, before, turns, _⟩ :=
    undisturbed.between.orderly.opened (undisturbed.between.unbegun id) stepped calls begun
  have moved : station.move? (.step id) = some after := stepped
  have admits := undisturbed.between.orderly.admits_call asked
  obtain ⟨slot, phase, _⟩ := turns.begins before begun
  have underWay : after.link.phase.underWay = true := by
    rw [phase]
    exact Link.underWay_initialPhase exchange slot
  refine ⟨undisturbed.between.begins stepped calls begun, ?_, ?_⟩
  · rw [(telling.move moved).flagged.underWay underWay, phase, Link.flags_initialPhase,
      Status.insert_empty]
  · exact (turns.settles admits before).1.trans undisturbed.beside

/-- Late events leave no trace. Whatever a run has left of earlier transactions, while no
caller expects an event and no frame is copied: events that are fed in change nothing
that can be seen. An idle or finished link stays as it is. An abandoned transaction with
a buffer lasts as long as the events only tell that something was sent, and its buffer is
given back with the first other one. And the next transaction begins with the same
number, without flags, and with the same buffers free, whatever events come in before. -/
theorem late_events_leave_no_trace {opened station : Station slots size capacity}
    {rule : Rule slots size capacity} {earlier : List (Move capacity)} (fresh : opened.Fresh)
    (reached : run? rule earlier opened = some station)
    (settled : station.link.phase.settled = true) :
    (∀ moves after, run? feedsOnly moves station = some after →
      station.link.Alike after.link ∧
      ((∀ slot, station.link.phase ≠ .abandoned slot) → after.link = station.link) ∧
      (station.link.phase = .abandoned none → station.fedIn moves ≠ [] →
        after.link = { station.link with phase := .idle }) ∧
      ∀ slot, station.link.phase = .abandoned (some slot) →
        station.link.pool.isOwned slot.index = true ∧
        ((∀ event ∈ station.fedIn moves, event = .sent) → after.link = station.link) ∧
        ((∃ event ∈ station.fedIn moves, event ≠ .sent) →
          after.link =
            { station.link with phase := .idle, pool := station.link.pool.release slot })) ∧
    ((∀ id, station.begun id = false) →
      ∀ moves preparing id started exchange point,
        run? preparesOnly moves station = some preparing → preparing.step? id = some started →
        started.call? id = some (exchange, point) → point.begun = true →
        started.BeginsWith station.link.sequence exchange point ∧
        started.link.status = Status.initialized ∧
        started.link.reservedBeside = station.link.reservedBeside) := by
  have telling : station.Telling := (telling_of_fresh fresh).run reached
  have orderly := telling.orderly
  refine ⟨?_, ?_⟩
  · intro moves after ran
    have left := orderly.link_of_fedIn settled ran
    refine ⟨left ▸ station.link.alike_drained _, ?_, ?_, ?_⟩
    · intro other
      exact left.trans (Link.drained_of_unabandoned _ other)
    · intro abandoned some
      exact left.trans (Link.drained_of_abandoned_none abandoned some)
    · intro slot abandoned
      refine ⟨?_, ?_, ?_⟩
      · refine ((balances_of_fresh fresh).run reached).owned (.inl ?_)
        rw [Link.claims, abandoned]
        exact List.mem_append_left _ List.mem_cons_self
      · intro sent
        exact left.trans (Link.drained_of_sent abandoned sent)
      · intro other
        exact left.trans (Link.drained_of_unsent abandoned other)
  · intro unbegun moves preparing id started exchange point ran stepped calls begun
    have before : station.Undisturbed station.link :=
      ⟨(counted_of_run fresh reached).between unbegun, settled, rfl⟩
    have undisturbed : preparing.Undisturbed station.link :=
      run?_keeps (Undisturbed station.link)
        (fun _ _ _ undisturbed allowed moved => undisturbed.move allowed moved) before ran
    exact undisturbed.begins (telling.run ran) stepped calls begun

def leavesReception : List (Move capacity) :=
  [[.submit 1 (.receive (.timeout 10) 0)], List.replicate 8 (.step 1),
    [.disturb (.pass 10), .step 1]].flatten

def reportsLate : List (Move capacity) :=
  [.submit 2 (.feed .sent), .step 2, .submit 3 (.feed .sent), .step 3,
    .submit 4 (.feed .receiveTimeout), .step 4, .submit 5 (.feed .received), .step 5]

def preparesAnswered : List (Move capacity) :=
  reportsLate ++ [.submit 6 (.send ((Request.ofPayload [0x68, 0x69]).expectResponse 0)), .step 6,
    .submit 7 (.feed .sent), .step 7]

theorem late_events_after_reception_leave_no_trace :
    ∃ opened station after preparing started : Station 2 127 0, ∃ exchange point,
      opened.Fresh ∧ run? dropsNothing leavesReception opened = some station ∧
      station.link.phase = .abandoned (some ⟨0⟩) ∧
      run? feedsOnly reportsLate station = some after ∧
      station.fedIn reportsLate = [.sent, .sent, .receiveTimeout, .received] ∧
      after.link =
        { station.link with phase := .idle, pool := station.link.pool.release ⟨0⟩ } ∧
      run? preparesOnly preparesAnswered station = some preparing ∧
      preparing.step? 6 = some started ∧ started.call? 6 = some (exchange, point) ∧
      started.BeginsWith station.link.sequence exchange point ∧
      started.link.status = Status.initialized ∧
      started.link.reservedBeside = station.link.reservedBeside := by
  have evaluated : (do
      let opened : Station 2 127 0 ← open? Device.unused {} .transfer
      let station ← run? dropsNothing leavesReception opened
      let after ← run? feedsOnly reportsLate station
      let preparing ← run? preparesOnly preparesAnswered station
      let started ← preparing.step? 6
      let call ← started.call? 6
      return (station.link.phase, station.fedIn reportsLate, station.tasks, call.2.begun)) =
      some (.abandoned (some ⟨0⟩), [.sent, .sent, .receiveTimeout, .received], [], true) := by
    cbv
  obtain ⟨opened, isOpen, evaluated⟩ := Option.bind_eq_some_iff.mp evaluated
  obtain ⟨station, reached, evaluated⟩ := Option.bind_eq_some_iff.mp evaluated
  obtain ⟨after, ran, evaluated⟩ := Option.bind_eq_some_iff.mp evaluated
  obtain ⟨preparing, prepared, evaluated⟩ := Option.bind_eq_some_iff.mp evaluated
  obtain ⟨started, begins, evaluated⟩ := Option.bind_eq_some_iff.mp evaluated
  obtain ⟨⟨exchange, point⟩, calls, evaluated⟩ := Option.bind_eq_some_iff.mp evaluated
  have seen := Option.some.inj evaluated
  simp only [Prod.mk.injEq] at seen
  obtain ⟨abandoned, events, gone, begun⟩ := seen
  have fresh := fresh_of_open? isOpen
  obtain ⟨drained, next⟩ :=
    late_events_leave_no_trace fresh reached (by rw [abandoned]; rfl)
  obtain ⟨_, _, _, closes⟩ := drained _ after ran
  have closed := (closes ⟨0⟩ abandoned).2.2 ⟨.receiveTimeout, by rw [events]; decide, by decide⟩
  have unbegun (id : TaskId) : station.begun id = false := by
    rw [Station.begun, task?, gone]
    rfl
  obtain ⟨number, flags, buffers⟩ :=
    next unbegun _ preparing 6 started exchange point prepared begins calls begun
  exact ⟨opened, station, after, preparing, started, exchange, point, fresh, reached, abandoned,
    ran, events, closed, prepared, begins, calls, number, flags, buffers⟩

end Station

end UwbRadio
