import UwbRadio.Proofs.Link.Locks
import UwbRadio.Proofs.Link.Permits
import UwbRadio.Proofs.Station.Conservation
import UwbRadio.Proofs.Station.Reading

/-!
What no history can spoil. A lock is held only by a task that stands where it needs the
lock, so that all locks are free when no call and no task of the event side is under
way, however the calls before have ended. And each buffer is reserved or stands for one
permit, so that a reservation finds the buffer that it has a permit for.
-/

namespace UwbRadio

namespace Guard

def needs (guard : Guard) (task : Task) : Bool :=
  match task with
  | .interrupt point => guard.eventNeeds point
  | _ => task.call?.any fun call => guard.callerNeeds call.2

theorem needs_of_call (guard : Guard) {task : Task} {exchange : Exchange} {point : CallerPoint}
    (calls : task.call? = some (exchange, point)) :
    guard.needs task = guard.callerNeeds point := by
  cases task with
  | interrupt => cases calls
  | _ => exact congrArg (fun call? => Option.any (fun call => guard.callerNeeds call.2) call?) calls

theorem needs_of_rest (guard : Guard) {task : Task} (noCall : task.call? = none)
    (noEvent : task.servesEvents = false) : guard.needs task = false := by
  cases task with
  | interrupt => cases noEvent
  | _ =>
      exact congrArg (fun call? => Option.any (fun call => guard.callerNeeds call.2) call?) noCall

theorem lock_of_frame {slots size : Nat} (guard : Guard) {link : Link slots size} {bus : Bus}
    {pool : Pool slots size} {queue : Ranging.Queue slots} (same : link.pool.SameBytes pool) :
    guard.lock { link with bus, pool, queue } = guard.lock link := by
  cases guard with
  | registers => rfl
  | gate => rfl
  | buffer index => exact same.lockOf index

theorem needs_of_outside (guard : Guard) {task : Task} (outside : task.Outside)
    (noEvent : task.servesEvents = false) : guard.needs task = false := by
  cases calls : task.call? with
  | none => exact guard.needs_of_rest calls noEvent
  | some call =>
      rw [guard.needs_of_call calls, outside call.1 call.2 calls]
      cases guard <;> rfl

end Guard

theorem Effect.locks {slots size : Nat} {link after : Link slots size} {id : TaskId} {task : Task}
    {next : Option Task} {given : Option Slot} (effect : Effect link id task after next given)
    (guard : Guard) :
    (guard.lock link).Passes id (guard.needs task) (guard.lock after) (next.any guard.needs) := by
  have stays (noCall : task.call? = none) (noEvent : task.servesEvents = false)
      (next_rests : ∀ other ∈ next, other.Outside ∧ other.servesEvents = false)
      (frame : ∃ pool queue, after = { link with pool, queue }) :
      (guard.lock link).Passes id (guard.needs task) (guard.lock after)
        (next.any guard.needs) := by
    have needless : next.any guard.needs = false := by
      cases next with
      | none => rfl
      | some other => exact guard.needs_of_outside (next_rests other rfl).1 (next_rests other rfl).2
    refine .of_eq ?_ (needless.trans (guard.needs_of_rest noCall noEvent).symm)
    have same := effect.sameBytes noEvent
    obtain ⟨pool, queue, rfl⟩ := frame
    exact guard.lock_of_frame same
  cases effect with
  | call calls stepped goesOn =>
      have passes := (Link.callerTurns_of_eq stepped).passes guard
      rw [guard.needs_of_call calls, Option.any_some, guard.needs_of_call goesOn]
      exact passes
  | returned calls stepped rests =>
      have passes := (Link.callerTurns_of_eq stepped).passes guard
      have needless : next.any guard.needs = false := by
        cases next with
        | none => rfl
        | some other => exact guard.needs_of_rest (rests other rfl).1 (rests other rfl).2.2
      rw [guard.needs_of_call calls, needless]
      exact passes
  | event stepped => exact (Link.interruptTurns_of_eq stepped).passes guard
  | handled stepped => exact (Link.interruptTurns_of_eq stepped).passes guard
  | reserved reserved linkAfter => exact stays rfl rfl nofun ⟨_, _, linkAfter⟩
  | popped popped linkAfter =>
      refine stays rfl rfl ?_ ⟨_, _, linkAfter⟩
      rintro other ⟨⟩
      exact ⟨Task.outside_of_no_call rfl, rfl⟩
  | processed free linkAfter => exact stays rfl rfl nofun ⟨_, _, linkAfter⟩
  | quiet noCall noSlot noEvent rests linkAfter =>
      exact stays noCall noEvent (fun other member => ⟨(rests other member).1,
        (rests other member).2.2⟩) ⟨_, _, linkAfter⟩

theorem Effect.accounted {slots size : Nat} {link after : Link slots size} {id : TaskId}
    {task : Task} {next : Option Task} {given : Option Slot}
    (effect : Effect link id task after next given) (accounted : link.pool.Accounted) :
    after.pool.Accounted := by
  cases effect with
  | call calls stepped => exact (Link.callerTurns_of_eq stepped).accounted accounted
  | returned calls stepped => exact (Link.callerTurns_of_eq stepped).accounted accounted
  | event stepped => exact (Link.interruptTurns_of_eq stepped).accounted accounted
  | handled stepped => exact (Link.interruptTurns_of_eq stepped).accounted accounted
  | reserved reserved linkAfter =>
      have kept := accounted.reserve
      rw [reserved] at kept
      rw [linkAfter]
      exact kept
  | popped popped linkAfter => rw [linkAfter]; exact accounted
  | processed free linkAfter => rw [linkAfter]; exact accounted.release _
  | quiet _ _ _ _ linkAfter => rw [linkAfter]; exact accounted

theorem Action.locks {slots size : Nat} {link after : Link slots size} {held later : List Slot}
    (action : Action link held after later) (guard : Guard) :
    guard.lock after = guard.lock link := by
  have same := action.sameBytes
  obtain ⟨bus, pool, queue, rfl⟩ := action.frame
  exact guard.lock_of_frame same

theorem Action.accounted {slots size : Nat} {link after : Link slots size}
    {held later : List Slot} (action : Action link held after later)
    (accounted : link.pool.Accounted) : after.pool.Accounted := by
  have kept := accounted.tryReserve
  cases action with
  | reserved reserved => rw [reserved] at kept; exact kept
  | exhausted exhausted => rw [exhausted] at kept; exact kept
  | released => exact accounted.release _
  | _ => exact accounted

namespace Station

variable {slots size capacity : Nat} {station after : Station slots size capacity}

/-- Whoever holds a lock stands where it needs the lock. -/
def Guarded (station : Station slots size capacity) : Prop :=
  ∀ (guard : Guard) (id : TaskId), (guard.lock station.link).holder = some id →
    ∃ task, station.task? id = some task ∧ guard.needs task = true

theorem guarded_of_fresh (fresh : station.Fresh) : station.Guarded := by
  obtain ⟨bus, sequence, info, config, handler, rfl⟩ := fresh.eq_ofLink
  intro guard id holds
  cases guard with
  | registers => cases holds
  | gate => cases holds
  | buffer index =>
      have free : (Pool.empty slots size).lockOf index = Lock.free := by
        rw [Pool.lockOf, Pool.empty]
        by_cases inside : index < slots <;> simp [inside]
      have holds : ((Pool.empty slots size).lockOf index).holder = some id := holds
      rw [free] at holds
      cases holds

theorem Guarded.move {move : Move capacity} (orderly : station.Orderly)
    (guarded : station.Guarded) (moved : station.move? move = some after) : after.Guarded := by
  have stays {id owner : TaskId} {first second : Option Task} {guard : Guard}
      (renames : station.Renames after id first second) (apart : owner ≠ id)
      (holds : (guard.lock station.link).holder = some owner) :
      ∃ task, after.task? owner = some task ∧ guard.needs task = true := by
    obtain ⟨task, found, needs⟩ := guarded guard owner holds
    exact ⟨task, (renames.stay owner apart).trans found, needs⟩
  intro guard owner holds
  cases orderly.happens moved with
  | @step id task next given effect renames =>
      have needed (own : (guard.lock station.link).holder = some id) :
          guard.needs task = true := by
        obtain ⟨other, found, needs⟩ := guarded guard id own
        rw [renames.before] at found
        cases found
        exact needs
      rcases (effect.locks guard).holder holds needed with ⟨rfl, needs⟩ | ⟨apart, held⟩
      · obtain ⟨other, rfl, needs⟩ := (Option.any_eq_true _ _).mp needs
        exact ⟨other, renames.later, needs⟩
      · exact stays renames apart held
  | @cancel id task linkAfter renames =>
      rw [linkAfter, guard.lock_without] at holds
      obtain ⟨apart, held⟩ := Lock.without_holder holds
      exact stays renames apart held
  | @call _ id task names outside quiet linkAfter renames =>
      rw [linkAfter] at holds
      by_cases same : owner = id
      · subst same
        obtain ⟨task, found, _⟩ := guarded guard owner holds
        rw [renames.before] at found
        cases found
      · exact stays renames same holds
  | action noTask acted same =>
      rw [acted.locks guard] at holds
      obtain ⟨task, found, needs⟩ := guarded guard owner holds
      exact ⟨task, (same owner).trans found, needs⟩

structure Sound (station : Station slots size capacity) : Prop where
  orderly : station.Orderly
  guarded : station.Guarded
  accounted : station.link.pool.Accounted
  balances : ∃ lost, station.Balances lost

theorem sound_of_fresh (fresh : station.Fresh) : station.Sound where
  orderly := orderly_of_fresh fresh
  guarded := guarded_of_fresh fresh
  accounted := by
    obtain ⟨bus, sequence, info, config, handler, rfl⟩ := fresh.eq_ofLink
    exact Pool.accounted_empty
  balances := ⟨[], balances_of_fresh fresh⟩

theorem Sound.move {move : Move capacity} (sound : station.Sound)
    (moved : station.move? move = some after) : after.Sound where
  orderly := sound.orderly.move moved
  guarded := sound.guarded.move sound.orderly moved
  accounted := by
    cases sound.orderly.happens moved with
    | step effect => exact effect.accounted sound.accounted
    | cancel linkAfter => rw [linkAfter]; exact sound.accounted
    | call names outside quiet linkAfter => rw [linkAfter]; exact sound.accounted
    | action noTask acted => exact acted.accounted sound.accounted
  balances := by
    obtain ⟨lost, balances⟩ := sound.balances
    exact ⟨_, balances.move moved⟩

theorem Sound.run {rule : Rule slots size capacity} {moves : List (Move capacity)}
    (sound : station.Sound) (ran : run? rule moves station = some after) : after.Sound :=
  run?_keeps Sound (fun _ _ _ sound _ moved => sound.move moved) sound ran

/-- No call is past the beginning of a transaction and no event is being served: whoever
is there waits for time or for a buffer, or processes an answer. -/
def Quiet (station : Station slots size capacity) : Prop :=
  ∀ id task, station.task? id = some task → task.call? = none ∧ task.servesEvents = false

/-- Then nobody is left to hold a lock, whatever became of those who were there. -/
theorem Sound.free (sound : station.Sound) (quiet : station.Quiet) (guard : Guard) :
    guard.lock station.link = Lock.free := by
  apply Lock.eq_free
  intro id holds
  obtain ⟨task, found, needs⟩ := sound.guarded guard id holds
  obtain ⟨noCall, noEvent⟩ := quiet id task found
  rw [guard.needs_of_rest noCall noEvent] at needs
  cases needs

theorem Sound.copies_inside {id : TaskId} {slot : Slot} (sound : station.Sound) {task : Task}
    (found : station.task? id = some task) (holds : task.slot? = some slot) :
    slot.index < slots := by
  obtain ⟨lost, balances⟩ := sound.balances
  exact Pool.isOwned_lt (balances.owned (.inr (.inr (mem_inHands (mem_tasks found) holds))))

theorem Sound.accessible {id : TaskId} {slot : Slot} (sound : station.Sound) {task : Task}
    (found : station.task? id = some task) (holds : task.slot? = some slot)
    (unlocked : (Guard.buffer slot.index).needs task = false) :
    station.link.pool.accessible slot = true := by
  refine Pool.accessible_iff.mpr ⟨sound.copies_inside found holds, ?_⟩
  have free : station.link.pool.lockOf slot.index = Lock.free := by
    apply Lock.eq_free
    intro owner locked
    obtain ⟨other, present, needs⟩ := sound.guarded (.buffer slot.index) owner locked
    have copies : other.slot? = some slot := by
      cases calls : other.call? with
      | some call => rw [Guard.needs_of_call _ calls] at needs; cases needs
      | none =>
          cases other with
          | interrupt at_ =>
              cases at_ with
              | readFrame theirs length =>
                  have same : theirs.index = slot.index := eq_of_beq needs
                  exact congrArg (fun index => some (Slot.mk index)) same
              | _ => cases needs
          | _ => rw [Guard.needs_of_rest _ calls rfl] at needs; cases needs
    obtain ⟨lost, balances⟩ := sound.balances
    by_cases same : owner = id
    · subst same
      cases present.symm.trans found
      rw [unlocked] at needs
      cases needs
    · exact (balances.alone found holds).2.2 owner other same present copies
  rw [free]
  rfl

end Station

end UwbRadio
