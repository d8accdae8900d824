import UwbRadio.Proofs.Link.Registers
import UwbRadio.Proofs.Station.Locks

/-!
One task at a time uses the registers. Every task that stands where it needs them holds
them, whoever is dropped and whatever fails, so that nobody else touches the bus while
it stands there.
-/

namespace UwbRadio

theorem Lock.Passes.needed {self : TaskId} {lock after : Lock} {before : Bool}
    (passes : lock.Passes self before after true) :
    (after = lock ∧ before = true) ∨ after = heldBy self := by
  cases passes with
  | kept => exact .inl ⟨rfl, rfl⟩
  | taken => exact .inr rfl

theorem Guard.needs_of_starts (guard : Guard) {task : Task} (starts : task.starts = true) :
    guard.needs task = false := by
  cases task with
  | interrupt point =>
      cases point with
      | event event => cases guard <;> rfl
      | statusLock => cases guard <;> rfl
      | _ => cases starts
  | _ => exact guard.needs_of_outside (Task.outside_of_starts starts) rfl

theorem Effect.sparesHolder {slots size : Nat} {link after : Link slots size} {id : TaskId}
    {task : Task} {next : Option Task} {given : Option Slot}
    (effect : Effect link id task after next given)
    (needless : Guard.registers.needs task = false) : link.SparesHolder after := by
  cases effect.part with
  | call calls stepped =>
      rw [Guard.needs_of_call _ calls] at needless
      exact (Link.callerTurns_of_eq stepped).sparesHolder needless
  | returned calls stepped =>
      rw [Guard.needs_of_call _ calls] at needless
      exact (Link.callerTurns_of_eq stepped).sparesHolder needless
  | event stepped => exact (Link.interruptTurns_of_eq stepped).sparesHolder needless
  | handled stepped => exact (Link.interruptTurns_of_eq stepped).sparesHolder needless
  | aside noCall noEvent outside linkAfter =>
      subst linkAfter
      exact Link.sparesHolder_of_eq rfl rfl

theorem Effect.busRelated {slots size : Nat} {link after : Link slots size} {id : TaskId}
    {task : Task} {next : Option Task} {given : Option Slot} {relates : Bus → Bus → Prop}
    (effect : Effect link id task after next given) (transfers : Bus.Transfers relates) :
    relates link.bus after.bus := by
  cases effect.part with
  | call calls stepped => exact (Link.callerTurns_of_eq stepped).busRelated transfers
  | returned calls stepped => exact (Link.callerTurns_of_eq stepped).busRelated transfers
  | event stepped => exact (Link.interruptTurns_of_eq stepped).busRelated transfers
  | handled stepped => exact (Link.interruptTurns_of_eq stepped).busRelated transfers
  | aside noCall noEvent outside linkAfter =>
      subst linkAfter
      exact transfers.refl _

namespace Station

variable {slots size capacity : Nat} {station after : Station slots size capacity}

/-- Whoever stands where it needs the registers holds them. -/
def Holding (station : Station slots size capacity) : Prop :=
  ∀ id task, station.task? id = some task → Guard.registers.needs task = true →
    station.link.registers.holder = some id

theorem holding_of_fresh (fresh : station.Fresh) : station.Holding := by
  obtain ⟨device, config, handler, link, opened, rfl⟩ := fresh
  intro id task found
  cases found

/-- While a task stands where it needs the registers, a step of another leaves the bus
alone and the registers with their holder. -/
theorem Holding.spares {id other : TaskId} {task waiting : Task} {next : Option Task}
    {given : Option Slot} (holding : station.Holding)
    (effect : Effect station.link id task after.link next given)
    (found : station.task? id = some task) (apart : other ≠ id)
    (present : station.task? other = some waiting)
    (needs : Guard.registers.needs waiting = true) :
    after.link.bus = station.link.bus ∧ after.link.registers = station.link.registers := by
  have holder := holding other waiting present needs
  cases mine : Guard.registers.needs task with
  | true =>
      have same := holding id task found mine
      rw [holder] at same
      exact absurd (Option.some.inj same) apart
  | false =>
      obtain ⟨bus, free | registers⟩ := effect.sparesHolder mine
      · rw [Lock.isFree, holder] at free
        cases free
      · exact ⟨bus, registers⟩

theorem needless_of_named {move : Move capacity} {id : TaskId} {task : Task}
    (moved : station.move? move = some after) (names : move.names id = true)
    (renames : station.Renames after id none (some task)) :
    Guard.registers.needs task = false := by
  rcases named_task moved names renames.before renames.later with ⟨_, starts⟩ | ⟨slot, _, rfl⟩
  · exact Guard.needs_of_starts _ starts
  · rfl

theorem Orderly.stood {move : Move capacity} (orderly : station.Orderly)
    (moved : station.move? move = some after) (unstepped : ∀ id, move ≠ .step id) :
    ∀ id task, after.task? id = some task → Guard.registers.needs task = true →
      station.task? id = some task := by
  intro id task found needs
  rcases orderly.task_unstepped moved (unstepped id) found with same | starts | ⟨slot, rfl⟩
  · exact same
  · rw [Guard.needs_of_starts _ starts] at needs
    cases needs
  · cases needs

theorem Holding.move {move : Move capacity} (holding : station.Holding)
    (orderly : station.Orderly) (moved : station.move? move = some after) : after.Holding := by
  cases orderly.happens moved with
  | @step id task next given effect renames =>
      refine renames.task ?_ ?_
      · intro later present needs
        have passes := effect.locks .registers
        have needed : next.any Guard.registers.needs = true :=
          (Option.any_eq_true _ _).mpr ⟨later, present, needs⟩
        rw [needed] at passes
        rcases passes.needed with ⟨same, before⟩ | taken
        · exact (congrArg Lock.holder same).trans (holding id task renames.before before)
        · exact congrArg Lock.holder taken
      · intro other waiting apart found needs
        obtain ⟨_, registers⟩ := holding.spares effect renames.before apart found needs
        rw [registers]
        exact holding other waiting found needs
  | @cancel id task linkAfter renames =>
      refine renames.task ?_ ?_
      · intro later absent
        cases absent
      · intro other waiting apart found needs
        have holder := holding other waiting found needs
        rw [linkAfter]
        have stays : station.link.registers.without id = station.link.registers := by
          rw [Lock.without, holder, if_neg]
          exact fun same => apart (Option.some.inj same)
        exact (congrArg Lock.holder stays).trans holder
  | @call move id task names outside quiet linkAfter renames =>
      refine renames.task ?_ ?_
      · rintro later ⟨⟩ needs
        rw [needless_of_named moved names renames] at needs
        cases needs
      · intro other waiting apart found needs
        rw [linkAfter]
        exact holding other waiting found needs
  | action noTask acted same =>
      intro id task found needs
      obtain ⟨bus, pool, queue, linkAfter⟩ := acted.frame
      rw [linkAfter]
      exact holding id task ((same id).symm.trans found) needs

end Station

end UwbRadio
