import UwbRadio.Proofs.Link.Request
import UwbRadio.Proofs.Station.Calls
import UwbRadio.Proofs.Station.Registers
import UwbRadio.Proofs.Station.Writes

/-!
The frames of the sends of a station. A send past the gate has the counter to itself, and
one that holds the registers has the device to itself, so whatever the others do in between,
its frame is the one that is loaded when it starts the transmitter.
-/

namespace UwbRadio

namespace Station

variable {slots size capacity : Nat} {station after : Station slots size capacity}

/-- The move has left the bus alone or was something that the surroundings did to it. -/
def Spared (station after : Station slots size capacity) (move : Move capacity) : Prop :=
  after.link.bus = station.link.bus ∨
    ∃ change, move = .disturb change ∧ after.link.bus = change.alter station.link.bus

theorem spared_of_unstepped {move : Move capacity} (moved : station.move? move = some after)
    (unstepped : ∀ id, move ≠ .step id) : station.Spared after move := by
  by_cases disturbed : ∃ change, move = .disturb change
  · obtain ⟨change, rfl⟩ := disturbed
    cases moved
    exact .inr ⟨change, rfl, rfl⟩
  · exact .inl (bus_of_move? moved unstepped fun change same => disturbed ⟨change, same⟩)

theorem Spared.written {move : Move capacity} (spared : station.Spared after move) :
    after.link.bus.written = station.link.bus.written := by
  rcases spared with same | ⟨change, _, altered⟩
  · rw [same]
  · rw [altered]
    exact change.alter_written station.link.bus

/-- What a move is to a call that is under way after it: the call waits at the gate, or has
made the step, or has been left what it relies on, the counter past the gate and the bus while
it holds the registers. -/
inductive Sees (station after : Station slots size capacity) (move : Move capacity) (id : TaskId)
    (exchange : Exchange) (point : CallerPoint) : Prop
  | waits (atGate : point = .gate) : Sees station after move id exchange point
  | steps {earlier} (mine : move = .step id)
      (before : station.call? id = some (exchange, earlier))
      (turns : Link.CallerTurns station.link id exchange earlier (.next after.link point)) :
      Sees station after move id exchange point
  | stays (unmoved : move ≠ .step id) (before : station.call? id = some (exchange, point))
      (sequence : point ≠ .gate → after.link.sequence = station.link.sequence)
      (bus : point.holdsRegisters = true → station.Spared after move) :
      Sees station after move id exchange point

theorem Holding.spared {move : Move capacity} {id : TaskId} {task : Task}
    (holding : station.Holding) (orderly : station.Orderly)
    (moved : station.move? move = some after) (unmoved : move ≠ .step id)
    (present : station.task? id = some task) (needs : Guard.registers.needs task = true) :
    station.Spared after move := by
  by_cases steps : ∃ other, move = .step other
  · obtain ⟨other, rfl⟩ := steps
    obtain ⟨moving, next, given, effect, renames⟩ := orderly.step_task moved
    have apart : id ≠ other := fun same => unmoved (congrArg Move.step same.symm)
    exact .inl (holding.spares effect renames.before apart present needs).1
  · exact spared_of_unstepped moved fun other same => steps ⟨other, same⟩

theorem Orderly.sees {move : Move capacity} {id : TaskId} {exchange : Exchange}
    {point : CallerPoint} (orderly : station.Orderly) (holding : station.Holding)
    (moved : station.move? move = some after)
    (calls : after.call? id = some (exchange, point)) :
    station.Sees after move id exchange point := by
  cases orderly.callFrom moved calls with
  | gate atGate => exact .waits atGate
  | step mine before turns => exact .steps mine before turns
  | stay unmoved before =>
      refine .stays unmoved before (orderly.keeps_sequence moved unmoved before) fun holds => ?_
      obtain ⟨task, present, asks⟩ := Option.bind_eq_some_iff.mp before
      exact holding.spared orderly moved unmoved present
        ((Guard.needs_of_call .registers asks).trans holds)

def Bearing (station : Station slots size capacity) : Prop :=
  ∀ id request point, station.call? id = some (.send request, point) →
    station.link.Bears request point

theorem bearing_of_fresh (fresh : station.Fresh) : station.Bearing := by
  obtain ⟨device, config, handler, link, _, rfl⟩ := fresh
  intro id request point calls
  cases calls

theorem Bearing.move {move : Move capacity} (bearing : station.Bearing)
    (orderly : station.Orderly) (holding : station.Holding)
    (moved : station.move? move = some after) : after.Bearing := by
  intro id request point calls
  cases orderly.sees holding moved calls with
  | waits atGate =>
      rw [atGate]
      trivial
  | steps mine before turns => exact turns.bears (bearing id request _ before)
  | stays _ before sequence bus =>
      exact (bearing id request point before).congr sequence fun holds => (bus holds).written

end Station

end UwbRadio
