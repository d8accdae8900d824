import UwbRadio.Proofs.Station.Gate

/-!
Moves seen task by task. A move changes what one name stands for, at most, and all
other tasks stay where they are.
-/

namespace UwbRadio

def Move.names {capacity : Nat} (move : Move capacity) (id : TaskId) : Bool :=
  match move with
  | .submit other _ | .process other _ => other == id
  | _ => false

namespace Move

variable {capacity : Nat} {move : Move capacity}

theorem ne_step_of_names {id : TaskId} (names : move.names id = true) (other : TaskId) :
    move ≠ .step other := by
  rintro rfl
  cases names

theorem ne_step_of_noTask (noTask : move.task? = none) (other : TaskId) : move ≠ .step other := by
  rintro rfl
  cases noTask

end Move

namespace Effect

variable {slots size : Nat} {link after : Link slots size} {id : TaskId} {next : Option Task}
  {given : Option Slot}

theorem of_interrupt {point : InterruptPoint}
    (effect : Effect link id (.interrupt point) after next given) :
    (∃ later, next = some (.interrupt later) ∧
      Link.InterruptTurns link id point (.next after later)) ∨
    ∃ result, next = none ∧ Link.InterruptTurns link id point (.done after result) := by
  cases effect.part with
  | call calls => cases calls
  | returned calls => cases calls
  | event stepped => exact .inl ⟨_, rfl, Link.interruptTurns_of_eq stepped⟩
  | handled stepped => exact .inr ⟨_, rfl, Link.interruptTurns_of_eq stepped⟩
  | aside noCall noEvent => cases noEvent

theorem goes_on {point : InterruptPoint} {task : Task}
    (effect : Effect link id (.interrupt point) after (some task) given) :
    ∃ later, task = .interrupt later ∧ Link.InterruptTurns link id point (.next after later) := by
  rcases effect.of_interrupt with ⟨later, goesOn, turns⟩ | ⟨_, ends, _⟩
  · cases goesOn
    exact ⟨later, rfl, turns⟩
  · cases ends

theorem of_call_step {task : Task} {exchange : Exchange} {point : CallerPoint}
    (effect : Effect link id task after next given)
    (calls : task.call? = some (exchange, point)) :
    (∃ other later, next = some other ∧ other.call? = some (exchange, later) ∧
      link.callerStep id exchange point = .next after later) ∨
    ∃ result, (∀ other ∈ next, other.call? = none) ∧
      link.callerStep id exchange point = .done after result := by
  cases effect.part with
  | call found stepped goesOn =>
      rw [found] at calls
      cases calls
      exact .inl ⟨_, _, rfl, goesOn, stepped⟩
  | returned found stepped rests =>
      rw [found] at calls
      cases calls
      exact .inr ⟨_, rests, stepped⟩
  | event => cases calls
  | handled => cases calls
  | aside noCall => rw [noCall] at calls; cases calls

theorem of_call {task : Task} {exchange : Exchange} {point : CallerPoint}
    (effect : Effect link id task after next given)
    (calls : task.call? = some (exchange, point)) :
    (∃ other later, next = some other ∧ other.call? = some (exchange, later) ∧
      Link.CallerTurns link id exchange point (.next after later)) ∨
    ∃ result, (∀ other ∈ next, other.call? = none) ∧
      Link.CallerTurns link id exchange point (.done after result) := by
  rcases effect.of_call_step calls with ⟨other, later, same, goesOn, stepped⟩ |
    ⟨result, rests, stepped⟩
  · exact .inl ⟨other, later, same, goesOn, Link.callerTurns_of_eq stepped⟩
  · exact .inr ⟨result, rests, Link.callerTurns_of_eq stepped⟩

theorem next_outside {task : Task} (effect : Effect link id task after next given)
    (noCall : task.call? = none) : ∀ other ∈ next, other.Outside := by
  cases effect.part with
  | call calls => rw [noCall] at calls; cases calls
  | returned calls => rw [noCall] at calls; cases calls
  | event =>
      rintro other ⟨⟩
      exact Task.outside_of_no_call rfl
  | handled =>
      intro other absent
      cases absent
  | aside _ _ outside => exact outside

theorem to_interrupt {task : Task} {later : InterruptPoint}
    (effect : Effect link id task after (some (.interrupt later)) given) :
    ∃ point, task = .interrupt point ∧ Link.InterruptTurns link id point (.next after later) := by
  cases effect with
  | call calls stepped goesOn => cases goesOn
  | returned calls stepped rests => cases (rests _ rfl).2.2
  | event stepped => exact ⟨_, rfl, Link.interruptTurns_of_eq stepped⟩
  | quiet _ _ _ rests => cases (rests _ rfl).2.2

theorem next_idle {task : Task} (effect : Effect link id task after next given)
    (noEvent : task.servesEvents = false) (point : InterruptPoint) :
    next ≠ some (.interrupt point) := by
  rintro rfl
  obtain ⟨_, rfl, _⟩ := effect.to_interrupt
  cases noEvent

theorem sparesCaller {task : Task} (effect : Effect link id task after next given)
    (noCall : task.call? = none) : Link.SparesCaller link after := by
  cases effect.part with
  | call calls => rw [noCall] at calls; cases calls
  | returned calls => rw [noCall] at calls; cases calls
  | event stepped => exact (Link.interruptTurns_of_eq stepped).sparesCaller
  | handled stepped => exact (Link.interruptTurns_of_eq stepped).sparesCaller
  | aside _ _ _ linkAfter =>
      subst linkAfter
      exact ⟨rfl, rfl, rfl, rfl⟩

end Effect

namespace Station

variable {slots size capacity : Nat} {station after : Station slots size capacity}

def begun (station : Station slots size capacity) (id : TaskId) : Bool :=
  (station.task? id).any fun task => task.call?.any fun call => call.2.begun

theorem call_of_begun {id : TaskId} (begun : station.begun id = true) :
    ∃ task exchange point, station.task? id = some task ∧
      task.call? = some (exchange, point) ∧ point.begun = true := by
  obtain ⟨task, found, calling⟩ := (Option.any_eq_true _ _).mp begun
  obtain ⟨call, calls, begun⟩ := (Option.any_eq_true _ _).mp calling
  exact ⟨task, call.1, call.2, found, calls, begun⟩

theorem begun_congr {id : TaskId} (same : after.task? id = station.task? id) :
    after.begun id = station.begun id := by
  rw [begun, begun, same]

/-- Only the name `id` stands for something else: for `first` before and for `second`
after. -/
structure Renames (station after : Station slots size capacity) (id : TaskId)
    (first second : Option Task) : Prop where
  before : station.task? id = first
  later : after.task? id = second
  stay : ∀ other, other ≠ id → after.task? other = station.task? other

private theorem lookup_entryOf (id other : TaskId) (task : Option Task) :
    (entryOf id task).lookup other = if other = id then task else none := by
  cases task with
  | none => simp [entryOf]
  | some task =>
      by_cases same : other = id
      · simp [entryOf, same]
      · have missed : (other == id) = false := beq_eq_false_iff_ne.mpr same
        simp [entryOf, List.lookup_cons, missed, same]

theorem renames_of_tasks {id : TaskId} {first second : Option Task}
    {front back : List (TaskId × Task)}
    (tasksBefore : station.tasks = front ++ entryOf id first ++ back)
    (tasksAfter : after.tasks = front ++ entryOf id second ++ back)
    (others : ∀ entry ∈ front ++ back, entry.1 ≠ id) : station.Renames after id first second := by
  have absent (entries : List (TaskId × Task)) (among : ∀ entry ∈ entries, entry ∈ front ++ back) :
      entries.lookup id = none := by
    apply List.lookup_eq_none_iff.mpr
    intro entry member
    exact bne_iff_ne.mpr (others entry (among entry member)).symm
  have inFront := absent front fun entry member => List.mem_append_left back member
  have inBack := absent back fun entry member => List.mem_append_right front member
  constructor
  · rw [task?, tasksBefore, List.lookup_append, List.lookup_append, inFront, inBack,
      lookup_entryOf, if_pos rfl, Option.none_or, Option.or_none]
  · rw [task?, tasksAfter, List.lookup_append, List.lookup_append, inFront, inBack,
      lookup_entryOf, if_pos rfl, Option.none_or, Option.or_none]
  · intro other apart
    simp only [task?, tasksBefore, tasksAfter, List.lookup_append, lookup_entryOf, if_neg apart]

theorem StepEffect.renames {id : TaskId} {task : Task} {next : Option Task} {given : Option Slot}
    {front back : List (TaskId × Task)}
    (stepped : station.StepEffect id after task next given front back) :
    station.Renames after id (some task) next := by
  refine renames_of_tasks ?_ stepped.tasksAfter stepped.others
  rw [stepped.tasksBefore, List.append_cons]
  rfl

theorem Orderly.step_task {id : TaskId} (orderly : station.Orderly)
    (stepped : station.step? id = some after) :
    ∃ task next given, Effect station.link id task after.link next given ∧
      station.Renames after id (some task) next := by
  obtain ⟨task, next, given, front, back, stepped⟩ := step?_effect orderly.distinct stepped
  exact ⟨task, next, given, stepped.effect, stepped.renames⟩

/-- What a move comes to, task by task. -/
inductive Happens (station after : Station slots size capacity) : Move capacity → Prop
  | step {id task next given} (effect : Effect station.link id task after.link next given)
      (renames : station.Renames after id (some task) next) : Happens station after (.step id)
  | cancel {id task} (linkAfter : after.link = station.link.without id)
      (renames : station.Renames after id (some task) none) : Happens station after (.cancel id)
  | call {move id task} (names : move.names id = true) (outside : task.Outside)
      (quiet : task.servesEvents = true → task.slot? = none)
      (linkAfter : after.link = station.link)
      (renames : station.Renames after id none (some task)) : Happens station after move
  | action {move} (noTask : move.task? = none)
      (acted : Action station.link station.held after.link after.held)
      (same : ∀ id, after.task? id = station.task? id) : Happens station after move

theorem Orderly.happens {move : Move capacity} (orderly : station.Orderly)
    (moved : station.move? move = some after) : station.Happens after move := by
  have append (id : TaskId) (task : Task) (unknown : ∀ entry ∈ station.tasks, entry.1 ≠ id)
      (tasksAfter : after.tasks = station.tasks ++ [(id, task)]) :
      station.Renames after id none (some task) := by
    have before : station.tasks = station.tasks ++ entryOf id none ++ [] := by
      rw [List.append_nil]
      exact (List.append_nil _).symm
    have later : after.tasks = station.tasks ++ entryOf id (some task) ++ [] := by
      rw [List.append_nil, tasksAfter]
      rfl
    apply renames_of_tasks before later
    rw [List.append_nil]
    exact unknown
  cases move?_moved orderly.distinct moved with
  | @step id after task next given front back stepped =>
      exact .step stepped.effect stepped.renames
  | @cancel id after task front back tasksBefore others linkAfter tasksAfter heldAfter =>
      have renames : station.Renames after id (some task) none := by
        refine renames_of_tasks ?_ ?_ others
        · rw [tasksBefore, List.append_cons]
          rfl
        · rw [tasksAfter]
          exact congrArg (· ++ back) (List.append_nil front).symm
      exact .cancel linkAfter renames
  | @submit id call after unknown starts linkAfter tasksAfter heldAfter =>
      refine .call (beq_self_eq_true id) (Task.outside_of_starts starts) ?_ linkAfter
        (append id call unknown tasksAfter)
      intro serves
      exact Task.slot?_of_starts starts
  | @process id slot after unknown has linkAfter tasksAfter heldAfter =>
      refine .call (beq_self_eq_true id) ?_ ?_ linkAfter (append id _ unknown tasksAfter)
      · intro transaction point calls
        cases calls
      · intro serves
        cases serves
  | action noTask acted tasksAfter =>
      refine .action noTask acted ?_
      intro id
      rw [task?, task?, tasksAfter]

theorem named_task {move : Move capacity} {id : TaskId} {task : Task}
    (moved : station.move? move = some after) (names : move.names id = true)
    (unknown : station.task? id = none) (found : after.task? id = some task) :
    move = .submit id task ∧ task.starts = true ∨
      ∃ slot, move = .process id slot ∧ task = .process (.buffer ⟨slot⟩) := by
  have new {other : Task} (tasks : after.tasks = station.tasks ++ [(id, other)]) :
      other = task := by
    have unknown : station.tasks.lookup id = none := unknown
    rw [task?, tasks, List.lookup_append, unknown, Option.none_or, List.lookup_cons_self] at found
    exact Option.some.inj found
  cases move with
  | submit other call =>
      simp only [move?, Option.ite_none_right_eq_some, Option.some.injEq] at moved
      obtain ⟨⟨_, starts⟩, rfl⟩ := moved
      have same : other = id := eq_of_beq names
      subst same
      have call_eq := new rfl
      subst call_eq
      exact .inl ⟨rfl, starts⟩
  | process other slot =>
      simp only [move?, Option.ite_none_right_eq_some, Option.some.injEq] at moved
      obtain ⟨_, rfl⟩ := moved
      have same : other = id := eq_of_beq names
      subst same
      exact .inr ⟨slot, rfl, (new rfl).symm⟩
  | _ => cases names

/-- Where a task comes from that is there after a move: it has just been given its name, or
it has made the step, or it stays where it was. -/
inductive ComesFrom (station after : Station slots size capacity) (move : Move capacity)
    (id : TaskId) (task : Task) : Prop
  | name (names : move.names id = true) (absent : station.task? id = none)
      (new : task.starts = true ∨ ∃ slot, task = .process (.buffer ⟨slot⟩)) :
      ComesFrom station after move id task
  | step {earlier given} (mine : move = .step id) (before : station.task? id = some earlier)
      (effect : Effect station.link id earlier after.link (some task) given) :
      ComesFrom station after move id task
  | stay (unmoved : move ≠ .step id) (before : station.task? id = some task) :
      ComesFrom station after move id task

theorem Orderly.comesFrom {move : Move capacity} {id : TaskId} {task : Task}
    (orderly : station.Orderly) (moved : station.move? move = some after)
    (found : after.task? id = some task) : station.ComesFrom after move id task := by
  cases orderly.happens moved with
  | @step other moving next given effect renames =>
      by_cases same : id = other
      · subst same
        rw [renames.later] at found
        subst found
        exact .step rfl renames.before effect
      · refine .stay (fun mine => same (Move.step.inj mine).symm) ?_
        exact (renames.stay id same).symm.trans found
  | @cancel other dropped linkAfter renames =>
      have apart : id ≠ other := by
        rintro rfl
        cases renames.later.symm.trans found
      exact .stay nofun ((renames.stay id apart).symm.trans found)
  | @call move other started names outside quiet linkAfter renames =>
      by_cases same : id = other
      · subst same
        refine .name names renames.before ?_
        rcases named_task moved names renames.before found with ⟨_, starts⟩ | ⟨slot, _, buffer⟩
        · exact .inl starts
        · exact .inr ⟨slot, buffer⟩
      · exact .stay (Move.ne_step_of_names names id) ((renames.stay id same).symm.trans found)
  | action noTask acted same =>
      exact .stay (Move.ne_step_of_noTask noTask id) ((same id).symm.trans found)

theorem Orderly.task_unstepped {move : Move capacity} {id : TaskId} {task : Task}
    (orderly : station.Orderly) (moved : station.move? move = some after)
    (unstepped : move ≠ .step id) (found : after.task? id = some task) :
    station.task? id = some task ∨ task.starts = true ∨
      ∃ slot, task = .process (.buffer ⟨slot⟩) := by
  cases orderly.comesFrom moved found with
  | name names absent new => exact .inr new
  | step mine => exact absurd mine unstepped
  | stay unmoved before => exact .inl before

def CallersWait (station : Station slots size capacity) : Prop :=
  ∀ id task, station.task? id = some task → task.Outside

/-- What the tasks are after a name has changed: the new one, and the others as before. -/
theorem Renames.task {id : TaskId} {first second : Option Task} {Holds : TaskId → Task → Prop}
    (renames : station.Renames after id first second) (new : ∀ task ∈ second, Holds id task)
    (others : ∀ other task, other ≠ id → station.task? other = some task → Holds other task) :
    ∀ other task, after.task? other = some task → Holds other task := by
  intro other task found
  by_cases same : other = id
  · subst same
    rw [renames.later] at found
    exact new task found
  · rw [renames.stay other same] at found
    exact others other task same found

theorem CallersWait.renames {id : TaskId} {first second : Option Task}
    (waiting : station.CallersWait) (renames : station.Renames after id first second)
    (outside : ∀ task ∈ second, task.Outside) : after.CallersWait :=
  renames.task outside fun other task _ found => waiting other task found

theorem Orderly.admits_task {id : TaskId} {task : Task} {exchange : Exchange}
    {point : CallerPoint} (orderly : station.Orderly) (found : station.task? id = some task)
    (calls : task.call? = some (exchange, point)) : station.link.Admits id point := by
  obtain ⟨front, back, listed, _⟩ := List.lookup_eq_some_iff.mp found
  have member : (id, task) ∈ station.tasks := by
    rw [listed]
    exact List.mem_append_right front List.mem_cons_self
  exact orderly.admits (id, task) member exchange point calls

end Station

end UwbRadio
