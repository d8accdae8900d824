import UwbRadio.Proofs.Link.Copy
import UwbRadio.Proofs.Station.Tasks

/-!
The calls of a station: which transaction each task runs, how far it is, and what it
returns with its last step. A call that waits for a buffer needs one, so that a
transaction begins with a buffer exactly if it needs one.
-/

namespace UwbRadio

theorem Task.no_event_of_call? {task : Task} {call : Exchange × CallerPoint}
    (calls : task.call? = some call) : task.servesEvents = false := by
  cases task with
  | interrupt => cases calls
  | _ => rfl

namespace Station

variable {slots size capacity : Nat}

def call? (station : Station slots size capacity) (id : TaskId) :
    Option (Exchange × CallerPoint) :=
  (station.task? id).bind Task.call?

def returns? (station : Station slots size capacity) (id : TaskId) :
    Option (Exchange × Except (Error BusFault) Status) :=
  (station.call? id).bind fun call =>
    match station.link.callerStep id call.1 call.2 with
    | .done _ result => some (call.1, result)
    | _ => none

variable {station after : Station slots size capacity} {id : TaskId} {exchange : Exchange}
  {point : CallerPoint}

theorem call?_of_task {task : Task} (found : station.task? id = some task) :
    station.call? id = task.call? := by
  rw [call?, found, Option.bind_some]

theorem Renames.stay_call {first second : Option Task} {other : TaskId}
    (renames : station.Renames after id first second) (apart : other ≠ id) :
    after.call? other = station.call? other := by
  rw [call?, call?, renames.stay other apart]

theorem Renames.call_elsewhere {first second : Option Task} {other : TaskId}
    {call : Exchange × CallerPoint} (renames : station.Renames after id first second)
    (noCall : ∀ task ∈ second, task.call? = none) (calls : after.call? other = some call) :
    other ≠ id ∧ station.call? other = some call := by
  have apart : other ≠ id := by
    rintro rfl
    obtain ⟨task, found, calls⟩ := Option.bind_eq_some_iff.mp calls
    rw [renames.later] at found
    rw [noCall task found] at calls
    cases calls
  exact ⟨apart, (renames.stay_call apart).symm.trans calls⟩

theorem Orderly.admits_call (orderly : station.Orderly)
    (calls : station.call? id = some (exchange, point)) : station.link.Admits id point := by
  obtain ⟨task, found, calls⟩ := Option.bind_eq_some_iff.mp calls
  exact orderly.admits_task found calls

theorem Orderly.others_wait {turn : CallerTurn slots size} (orderly : station.Orderly)
    (calls : station.call? id = some (exchange, point))
    (turns : Link.CallerTurns station.link id exchange point turn) (moves : turn ≠ .wait) :
    ∀ other transaction at_, other ≠ id → station.call? other = some (transaction, at_) →
      at_ = .gate := by
  intro other transaction at_ apart asks
  have holder := turns.gate_before moves (orderly.admits_call calls)
  exact at_gate_of_holder holder apart (orderly.admits_call asks)

theorem Orderly.caller_steps (orderly : station.Orderly)
    (calls : station.call? id = some (exchange, point))
    (moved : station.move? (.step id) = some after) :
    (∃ later, station.link.callerStep id exchange point = .next after.link later) ∨
    ∃ result, station.link.callerStep id exchange point = .done after.link result := by
  obtain ⟨task, next, given, effect, renames⟩ := orderly.step_task moved
  rw [call?_of_task renames.before] at calls
  rcases effect.of_call_step calls with ⟨_, later, _, _, stepped⟩ | ⟨result, _, stepped⟩
  · exact .inl ⟨later, stepped⟩
  · exact .inr ⟨result, stepped⟩

theorem returns?_of_next {link : Link slots size} {later : CallerPoint}
    (calls : station.call? id = some (exchange, point))
    (stepped : station.link.callerStep id exchange point = .next link later) :
    station.returns? id = none := by
  rw [returns?, calls, Option.bind_some, stepped]

theorem returns?_of_done {link : Link slots size} {result : Except (Error BusFault) Status}
    (calls : station.call? id = some (exchange, point))
    (stepped : station.link.callerStep id exchange point = .done link result) :
    station.returns? id = some (exchange, result) := by
  rw [returns?, calls, Option.bind_some, stepped]

/-- Where a call comes from that is under way after a move: it waits at the gate, or it has
made the step, or it stays where it was. -/
inductive CallFrom (station after : Station slots size capacity) (move : Move capacity)
    (id : TaskId) (exchange : Exchange) (point : CallerPoint) : Prop
  | gate (atGate : point = .gate) : CallFrom station after move id exchange point
  | step {earlier} (mine : move = .step id) (before : station.call? id = some (exchange, earlier))
      (turns : Link.CallerTurns station.link id exchange earlier (.next after.link point)) :
      CallFrom station after move id exchange point
  | stay (unmoved : move ≠ .step id) (before : station.call? id = some (exchange, point)) :
      CallFrom station after move id exchange point

theorem Orderly.callFrom {move : Move capacity} (orderly : station.Orderly)
    (moved : station.move? move = some after)
    (calls : after.call? id = some (exchange, point)) :
    station.CallFrom after move id exchange point := by
  obtain ⟨task, found, asks⟩ := Option.bind_eq_some_iff.mp calls
  cases orderly.comesFrom moved found with
  | name names absent new =>
      rcases new with starts | ⟨slot, rfl⟩
      · exact .gate (Task.outside_of_starts starts exchange point asks)
      · cases asks
  | @step earlier given mine before effect =>
      cases called : earlier.call? with
      | none => exact .gate (effect.next_outside called task rfl exchange point asks)
      | some call =>
          rcases effect.of_call called with ⟨_, _, goes, goesOn, turns⟩ | ⟨_, rests, _⟩
          · cases goes
            rw [goesOn] at asks
            cases asks
            exact .step mine ((call?_of_task before).trans called) turns
          · rw [rests task rfl] at asks
            cases asks
  | stay unmoved before => exact .stay unmoved ((call?_of_task before).trans asks)

theorem Orderly.keeps_sequence {move : Move capacity} (orderly : station.Orderly)
    (moved : station.move? move = some after) (unmoved : move ≠ .step id)
    (calls : station.call? id = some (exchange, point)) (past : point ≠ .gate) :
    after.link.sequence = station.link.sequence := by
  cases orderly.happens moved with
  | @step other task next given effect renames =>
      have apart : id ≠ other := fun same => unmoved (congrArg Move.step same.symm)
      cases mine : task.call? with
      | none => exact (effect.sparesCaller mine).sequence
      | some call =>
          obtain ⟨transaction, at_⟩ := call
          have own := (call?_of_task renames.before).trans mine
          rcases effect.of_call mine with ⟨_, later, _, _, turns⟩ | ⟨result, _, turns⟩
          · exact absurd (orderly.others_wait own turns Turn.next_ne_wait id _ point apart calls)
              past
          · exact absurd (orderly.others_wait own turns Turn.done_ne_wait id _ point apart calls)
              past
  | cancel linkAfter => rw [linkAfter]; rfl
  | call names outside quiet linkAfter => rw [linkAfter]
  | action noTask acted =>
      obtain ⟨bus, pool, queue, linkAfter⟩ := acted.frame
      rw [linkAfter]

/-- Every call that waits for a buffer needs one. -/
def Expecting (station : Station slots size capacity) : Prop :=
  ∀ id exchange point, station.call? id = some (exchange, point) → point.reserves = true →
    exchange.needsBuffer = true

theorem expecting_of_fresh (fresh : station.Fresh) : station.Expecting := by
  obtain ⟨device, config, handler, link, _, rfl⟩ := fresh
  intro id exchange point calls
  cases calls

theorem Expecting.move {move : Move capacity} (orderly : station.Orderly)
    (expecting : station.Expecting) (moved : station.move? move = some after) :
    after.Expecting := by
  intro id exchange point calls reserves
  cases orderly.callFrom moved calls with
  | gate atGate =>
      rw [atGate] at reserves
      cases reserves
  | step mine before turns => exact turns.expects (expecting id exchange _ before) reserves
  | stay unmoved before => exact expecting id exchange point before reserves

theorem Orderly.opens (orderly : station.Orderly) (expecting : station.Expecting)
    (before : station.begun id = false) (stepped : station.step? id = some after)
    (calls : after.call? id = some (exchange, point)) (begun : point.begun = true) :
    ∃ slot, after.link.phase = exchange.initialPhase slot ∧ after.link.completion = false ∧
      slot.isSome = exchange.needsBuffer := by
  have moved : station.move? (.step id) = some after := stepped
  cases orderly.callFrom moved calls with
  | gate atGate =>
      rw [atGate] at begun
      cases begun
  | @step earlier mine asked turns =>
      obtain ⟨task, found, asks⟩ := Option.bind_eq_some_iff.mp asked
      have unbegun : earlier.begun = false := by
        rw [Station.begun, found, Option.any_some, asks] at before
        exact before
      obtain ⟨slot, phase, silent, needs⟩ := turns.begins unbegun begun
      exact ⟨slot, phase, silent, needs (expecting id _ earlier asked)⟩
  | stay unmoved => exact absurd rfl unmoved

end Station

end UwbRadio
