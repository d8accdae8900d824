import UwbRadio.Proofs.Link.Caller
import UwbRadio.Proofs.Link.Interrupt
import UwbRadio.Proofs.Station.Run
import UwbRadio.Proofs.Station.Turns

/-!
What a move does to the link and to the list of tasks. Every task is seen as what it
is for the link: a caller, the event side, the holder of a buffer. `Effect` says what
one step of such a task does, and `move?_turns` reduces every move of a run to it.
-/

namespace UwbRadio

open Ranging (LinkedSession)

namespace Task

def call? : Task → Option (Exchange × CallerPoint)
  | .exchange transaction point => some (transaction, point)
  | .tick (.asking request point) | .schedule (.asking request point) =>
      some (.send request, point)
  | _ => none

/-- The buffer that the task holds: the event side that of the frame it copies or
hands over, the processing of an answer that of the answer. -/
def slot? : Task → Option Slot
  | .interrupt point => point.slot?
  | .process (.buffer item) => some item.slot
  | _ => none

def servesEvents : Task → Bool
  | .interrupt _ => true
  | _ => false

def Outside (task : Task) : Prop :=
  ∀ exchange point, task.call? = some (exchange, point) → point = .gate

theorem outside_of_starts {task : Task} (starts : task.starts = true) : task.Outside := by
  intro transaction point calls
  cases task with
  | exchange _ _ =>
      cases calls
      cases point with
      | gate => rfl
      | _ => cases starts
  | tick at_ =>
      cases at_ with
      | begin => cases calls
      | asking _ _ => cases starts
  | schedule at_ =>
      cases at_ with
      | asking _ _ => cases starts
      | _ => cases calls
  | _ => cases calls

theorem slot?_of_starts {task : Task} (starts : task.starts = true) : task.slot? = none := by
  cases task with
  | interrupt point =>
      cases point with
      | event _ => rfl
      | statusLock => rfl
      | _ => cases starts
  | process point =>
      cases point with
      | pop => rfl
      | buffer _ => cases starts
  | _ => rfl

end Task

/-- What one step of a task does to the link, what becomes of the task, and the
buffer that the application gets by it. -/
inductive Effect {slots size : Nat} (link : Link slots size) (id : TaskId) :
    Task → Link slots size → Option Task → Option Slot → Prop
  | call {task next exchange point after later} (calls : task.call? = some (exchange, point))
      (stepped : link.callerStep id exchange point = .next after later)
      (goesOn : next.call? = some (exchange, later)) :
      Effect link id task after (some next) none
  | returned {task next exchange point after result}
      (calls : task.call? = some (exchange, point))
      (stepped : link.callerStep id exchange point = .done after result)
      (rests : ∀ other ∈ next, other.call? = none ∧ other.slot? = none ∧
        other.servesEvents = false) :
      Effect link id task after next none
  | event {point after later} (stepped : link.interruptStep id point = .next after later) :
      Effect link id (.interrupt point) after (some (.interrupt later)) none
  | handled {point after result} (stepped : link.interruptStep id point = .done after result) :
      Effect link id (.interrupt point) after none none
  | reserved {slot pool after} (reserved : link.pool.reserve = (some slot, pool))
      (linkAfter : after = { link with pool }) : Effect link id .reserve after none (some slot)
  | popped {item queue after} (popped : link.queue.pop? = some (item, queue))
      (linkAfter : after = { link with queue }) :
      Effect link id (.process .pop) after (some (.process (.buffer item))) none
  | processed {item after} (free : link.pool.accessible item.slot = true)
      (linkAfter : after = link.releaseSlot item.slot) :
      Effect link id (.process (.buffer item)) after none none
  | quiet {task next after} (noCall : task.call? = none) (noSlot : task.slot? = none)
      (noEvent : task.servesEvents = false)
      (rests : ∀ other ∈ next, other.Outside ∧ other.slot? = none ∧
        other.servesEvents = false) (linkAfter : after = link) :
      Effect link id task after next none

/-- What a step of a task is for callers and for the event side: a step of one of them,
or one that changes the buffers and the queue at most. -/
inductive Part {slots size : Nat} (link : Link slots size) (id : TaskId) :
    Task → Link slots size → Option Task → Prop
  | call {task next exchange point after later} (calls : task.call? = some (exchange, point))
      (stepped : link.callerStep id exchange point = .next after later)
      (goesOn : next.call? = some (exchange, later)) : Part link id task after (some next)
  | returned {task next exchange point after result}
      (calls : task.call? = some (exchange, point))
      (stepped : link.callerStep id exchange point = .done after result)
      (rests : ∀ other ∈ next, other.call? = none) : Part link id task after next
  | event {point after later} (stepped : link.interruptStep id point = .next after later) :
      Part link id (.interrupt point) after (some (.interrupt later))
  | handled {point after result} (stepped : link.interruptStep id point = .done after result) :
      Part link id (.interrupt point) after none
  | aside {task next after pool queue} (noCall : task.call? = none)
      (noEvent : task.servesEvents = false) (outside : ∀ other ∈ next, other.Outside)
      (linkAfter : after = { link with pool, queue }) : Part link id task after next

theorem Task.outside_of_no_call {task : Task} (noCall : task.call? = none) : task.Outside := by
  intro exchange point calls
  rw [noCall] at calls
  cases calls

theorem Task.outside_of_gate {task : Task} {exchange : Exchange}
    (calls : task.call? = some (exchange, .gate)) : task.Outside := by
  intro other point found
  rw [calls] at found
  cases found
  rfl

theorem Effect.part {slots size : Nat} {link after : Link slots size} {id : TaskId} {task : Task}
    {next : Option Task} {given : Option Slot} (effect : Effect link id task after next given) :
    Part link id task after next := by
  cases effect with
  | call calls stepped goesOn => exact .call calls stepped goesOn
  | returned calls stepped rests =>
      exact .returned calls stepped fun other member => (rests other member).1
  | event stepped => exact .event stepped
  | handled stepped => exact .handled stepped
  | reserved reserved linkAfter =>
      exact .aside rfl rfl (by intro other absent; cases absent) linkAfter
  | popped popped linkAfter =>
      refine .aside rfl rfl ?_ linkAfter
      rintro other ⟨⟩
      exact Task.outside_of_no_call rfl
  | processed free linkAfter =>
      exact .aside rfl rfl (by intro other absent; cases absent) linkAfter
  | quiet noCall noSlot noEvent rests linkAfter =>
      exact .aside noCall noEvent (fun other member => (rests other member).1) linkAfter

namespace Station

variable {slots size capacity : Nat}

def keeping (held : List Slot) : Option Slot → List Slot
  | none => held
  | some slot => slot :: held.erase slot

/-- What a step of a task came to: what it did to the link, and nothing else that
matters to other tasks. -/
def Turned (station : Station slots size capacity) (id : TaskId) (task : Task) :
    Turn (Station slots size capacity) Task TaskResult → Prop
  | .wait => True
  | .next after next =>
      Effect station.link id task after.link (some next) none ∧
        after.tasks = station.tasks ∧ after.held = station.held
  | .done after result =>
      ∃ given, Effect station.link id task after.link none given ∧
        after.tasks = station.tasks ∧ after.held = station.held ∧
        ∀ slot, result = .reserved slot ↔ given = some slot

theorem schedule_outside (session : Ranging.Session capacity) :
    (Task.schedule (LinkedSession.afterDelay session)).Outside ∧
      (Task.schedule (LinkedSession.afterDelay session)).slot? = none ∧
      (Task.schedule (LinkedSession.afterDelay session)).servesEvents = false := by
  unfold LinkedSession.afterDelay
  refine ⟨?_, rfl, rfl⟩
  split
  · split
    · exact Task.outside_of_no_call rfl
    · exact Task.outside_of_gate rfl
  · exact Task.outside_of_no_call rfl

theorem turned_done {station after : Station slots size capacity} {id : TaskId} {task : Task}
    {result : TaskResult} (effect : Effect station.link id task after.link none none)
    (tasks : after.tasks = station.tasks) (held : after.held = station.held)
    (unreserved : ∀ slot, result ≠ .reserved slot) :
    station.Turned id task (.done after result) :=
  ⟨none, effect, tasks, held, fun slot => ⟨fun same => absurd same (unreserved slot), nofun⟩⟩

theorem Turns.turned {station : Station slots size capacity} {id : TaskId} {task : Task}
    {turn : Turn (Station slots size capacity) Task TaskResult}
    (turns : station.Turns id task turn) : station.Turned id task turn := by
  have silent {task next : Task} {after : Station slots size capacity}
      (rests : task.call? = none ∧ task.slot? = none ∧ task.servesEvents = false)
      (outside : next.Outside ∧ next.slot? = none ∧ next.servesEvents = false)
      (link : after.link = station.link) :
      Effect station.link id task after.link (some next) none :=
    .quiet rests.1 rests.2.1 rests.2.2 (by rintro other ⟨⟩; exact outside) link
  cases turns with
  | wait => trivial
  | call stepped | tickAsks _ stepped | scheduleAsks _ stepped =>
      exact ⟨.call rfl stepped rfl, rfl, rfl⟩
  | returned stepped | tickEnds _ stepped =>
      exact turned_done (.returned rfl stepped nofun) rfl rfl nofun
  | scheduleEnds _ stepped =>
      refine ⟨.returned rfl stepped ?_, rfl, rfl⟩
      rintro other ⟨⟩
      exact ⟨rfl, rfl, rfl⟩
  | event stepped => exact ⟨.event stepped, rfl, rfl⟩
  | handled stepped => exact turned_done (.handled stepped) rfl rfl nofun
  | @reserved slot pool reserved =>
      refine ⟨some slot, .reserved reserved rfl, rfl, rfl, ?_⟩
      intro other
      rw [TaskResult.reserved.injEq, Option.some.injEq]
  | popped _ popped => exact ⟨.popped popped rfl, rfl, rfl⟩
  | processed _ free => exact turned_done (.processed free rfl) rfl rfl nofun
  | nothingToSend | overlong | idleTick =>
      exact turned_done (.quiet rfl rfl rfl nofun rfl) rfl rfl nofun
  | takesPacket | tickBegins =>
      exact ⟨silent ⟨rfl, rfl, rfl⟩ ⟨Task.outside_of_gate rfl, rfl, rfl⟩ rfl, rfl, rfl⟩
  | firstDelayOver | periodOver =>
      exact ⟨silent ⟨rfl, rfl, rfl⟩ (schedule_outside _) rfl, rfl, rfl⟩
  | scheduled | stopped | restarted | firstDelay | period =>
      exact ⟨silent ⟨rfl, rfl, rfl⟩ ⟨Task.outside_of_no_call rfl, rfl, rfl⟩ rfl, rfl, rfl⟩

def entryOf (id : TaskId) (task : Option Task) : List (TaskId × Task) :=
  (task.map fun task => (id, task)).toList

/-- A step of the task `id`, which stands between `front` and `back` in the list of
tasks: what it does to the link, to the list and to the application's buffers. -/
structure StepEffect (station : Station slots size capacity) (id : TaskId)
    (after : Station slots size capacity) (task : Task) (next : Option Task)
    (given : Option Slot) (front back : List (TaskId × Task)) : Prop where
  tasksBefore : station.tasks = front ++ (id, task) :: back
  others : ∀ entry ∈ front ++ back, entry.1 ≠ id
  effect : Effect station.link id task after.link next given
  tasksAfter : after.tasks = front ++ entryOf id next ++ back
  heldAfter : after.held = keeping station.held given

private theorem map_replace {entries : List (TaskId × Task)} {id : TaskId} (task : Task)
    (others : ∀ entry ∈ entries, entry.1 ≠ id) :
    entries.map (fun entry => if entry.1 = id then (id, task) else entry) = entries := by
  have same : entries.map (fun entry => if entry.1 = id then (id, task) else entry) =
      entries.map fun entry => entry :=
    List.map_congr_left fun entry member => if_neg (others entry member)
  rw [same, List.map_id']

private theorem filter_others {entries : List (TaskId × Task)} {id : TaskId}
    (others : ∀ entry ∈ entries, entry.1 ≠ id) :
    entries.filter (fun entry => entry.1 != id) = entries := by
  apply List.filter_eq_self.mpr
  intro entry member
  simpa using others entry member

theorem task_split {entries : List (TaskId × Task)} {id : TaskId} {task : Task}
    (distinct : (entries.map Prod.fst).Nodup) (member : (id, task) ∈ entries) :
    ∃ front back, entries = front ++ (id, task) :: back ∧
      ∀ other ∈ front ++ back, other.1 ≠ id := by
  obtain ⟨front, back, split⟩ := List.append_of_mem member
  refine ⟨front, back, split, ?_⟩
  rw [split, List.map_append, List.map_cons] at distinct
  have apart := List.perm_middle.nodup_iff.mp distinct
  rw [List.nodup_cons, ← List.map_append] at apart
  intro other present equal
  exact apart.1 (List.mem_map.mpr ⟨other, present, equal⟩)

private theorem removeTask_tasks {station : Station slots size capacity} {id : TaskId}
    {task : Task} {front back : List (TaskId × Task)}
    (tasksBefore : station.tasks = front ++ (id, task) :: back)
    (others : ∀ entry ∈ front ++ back, entry.1 ≠ id) :
    (station.removeTask id).tasks = front ++ back := by
  rw [removeTask, tasksBefore, List.filter_append, List.filter_cons_of_neg (by simp),
    ← List.filter_append, filter_others others]

theorem step?_effect {station after : Station slots size capacity} {id : TaskId}
    (distinct : (station.tasks.map Prod.fst).Nodup) (stepped : station.step? id = some after) :
    ∃ task next given front back, station.StepEffect id after task next given front back := by
  unfold step? at stepped
  split at stepped
  · cases stepped
  · rename_i task found
    obtain ⟨earlier, later, listed, _⟩ := List.lookup_eq_some_iff.mp found
    have member : (id, task) ∈ station.tasks := by
      rw [listed]
      exact List.mem_append_right earlier List.mem_cons_self
    obtain ⟨front, back, tasksBefore, others⟩ := task_split distinct member
    have inFront : ∀ entry ∈ front, entry.1 ≠ id :=
      fun entry member => others entry (List.mem_append_left back member)
    have inBack : ∀ entry ∈ back, entry.1 ≠ id :=
      fun entry member => others entry (List.mem_append_right front member)
    split at stepped
    · cases stepped
    · rename_i middle next going
      cases stepped
      obtain ⟨effect, sameTasks, sameHeld⟩ := (turns_of_eq going).turned
      refine ⟨task, some next, none, front, back, tasksBefore, others, effect, ?_, sameHeld⟩
      rw [replaceTask, sameTasks, tasksBefore, List.map_append, List.map_cons,
        map_replace next inFront, map_replace next inBack, if_pos rfl, entryOf,
        Option.map_some, Option.toList_some, List.append_assoc, List.singleton_append]
    · rename_i middle result ending
      cases stepped
      obtain ⟨given, effect, sameTasks, sameHeld, gives⟩ := (turns_of_eq ending).turned
      have removed : (middle.removeTask id).tasks = front ++ entryOf id none ++ back := by
        rw [removeTask_tasks (sameTasks.trans tasksBefore) others, entryOf, Option.map_none,
          Option.toList_none, List.append_nil]
      refine ⟨task, none, given, front, back, tasksBefore, others, ?_, ?_, ?_⟩
      · cases result <;> exact effect
      · cases result <;> exact removed
      · cases result with
        | reserved slot =>
            rw [(gives slot).mp rfl]
            exact congrArg (fun held => slot :: List.erase held slot) sameHeld
        | _ =>
            cases given with
            | none => exact sameHeld
            | some slot => cases (gives slot).mpr rfl

end Station

/-! ### The other moves -/

def Move.task? {capacity : Nat} : Move capacity → Option TaskId
  | .step id | .cancel id => some id
  | _ => none

/-- What the application and the surroundings do to the link and to the buffers that
the application has. None of it touches a lock, the phase or the counter. -/
inductive Action {slots size : Nat} (link : Link slots size) (held : List Slot) :
    Link slots size → List Slot → Prop
  | nothing : Action link held link held
  | disturbed (disturbance : Disturbance) :
      Action link held { link with bus := disturbance.alter link.bus } held
  | enabled (enabled : Bool) :
      Action link held { link with queue := link.queue.setEnabled enabled } held
  | reserved {slot pool} (reserved : link.pool.tryReserve = (some slot, pool)) :
      Action link held { link with pool } (slot :: held.erase slot)
  | exhausted {pool} (exhausted : link.pool.tryReserve = (none, pool)) :
      Action link held { link with pool } held
  | released {slot} (has : slot ∈ held) :
      Action link held (link.releaseSlot slot) (held.erase slot)
  | popped {item queue} (popped : link.queue.pop? = some (item, queue)) :
      Action link held { link with queue } (item.slot :: held.erase item.slot)
  | pushed {slot queue} (has : slot ∈ held) (pushed : link.queue.push? ⟨slot⟩ = some queue) :
      Action link held { link with queue } (held.erase slot)

theorem Action.frame {slots size : Nat} {link after : Link slots size} {held later : List Slot}
    (action : Action link held after later) :
    ∃ bus pool queue, after = { link with bus, pool, queue } := by
  cases action <;> exact ⟨_, _, _, rfl⟩

namespace Station

variable {slots size capacity : Nat}

inductive Moved (station : Station slots size capacity) :
    Move capacity → Station slots size capacity → Prop
  | step {id after task next given front back}
      (stepped : station.StepEffect id after task next given front back) :
      Moved station (.step id) after
  | cancel {id after task front back} (tasksBefore : station.tasks = front ++ (id, task) :: back)
      (others : ∀ entry ∈ front ++ back, entry.1 ≠ id)
      (linkAfter : after.link = station.link.without id)
      (tasksAfter : after.tasks = front ++ back) (heldAfter : after.held = station.held) :
      Moved station (.cancel id) after
  | submit {id call after} (unknown : ∀ entry ∈ station.tasks, entry.1 ≠ id)
      (starts : call.starts = true) (linkAfter : after.link = station.link)
      (tasksAfter : after.tasks = station.tasks ++ [(id, call)])
      (heldAfter : after.held = station.held) :
      Moved station (.submit id call) after
  | process {id slot after} (unknown : ∀ entry ∈ station.tasks, entry.1 ≠ id)
      (has : slot ∈ station.held) (linkAfter : after.link = station.link)
      (tasksAfter : after.tasks = station.tasks ++ [(id, .process (.buffer ⟨slot⟩))])
      (heldAfter : after.held = station.held.erase slot) :
      Moved station (.process id slot) after
  | action {move after} (noTask : move.task? = none)
      (acted : Action station.link station.held after.link after.held)
      (tasksAfter : after.tasks = station.tasks) : Moved station move after

private theorem unknown_of_knows {station : Station slots size capacity} {id : TaskId}
    (unknown : station.knows id = false) : ∀ entry ∈ station.tasks, entry.1 ≠ id := by
  intro entry member
  simpa using List.any_eq_false.mp unknown entry member

private theorem tryReserve_acts (station : Station slots size capacity) :
    Action station.link station.held station.tryReserve.2.link station.tryReserve.2.held := by
  unfold tryReserve
  split
  · rename_i reserved
    exact .reserved reserved
  · rename_i exhausted
    exact .exhausted exhausted

private theorem popQueued_acts (station : Station slots size capacity) :
    Action station.link station.held station.popQueued.2.link station.popQueued.2.held := by
  unfold popQueued
  split
  · exact .nothing
  · rename_i popped
    exact .popped popped

private theorem pushHeld_acts (station : Station slots size capacity) {slot : Slot}
    (has : slot ∈ station.held) :
    Action station.link station.held (station.pushHeld slot).2.link
      (station.pushHeld slot).2.held := by
  unfold pushHeld
  split
  · rename_i pushed
    exact .pushed has pushed
  · exact .nothing

private theorem addSession_acts (station : Station slots size capacity)
    (session : Ranging.Session capacity) :
    Action station.link station.held (station.addSession session).2.link
      (station.addSession session).2.held := by
  unfold addSession
  dsimp only
  split <;> exact .enabled _

theorem move?_moved {station after : Station slots size capacity} {move : Move capacity}
    (distinct : (station.tasks.map Prod.fst).Nodup) (moved : station.move? move = some after) :
    station.Moved move after := by
  cases move with
  | step id =>
      obtain ⟨task, next, given, front, back, stepped⟩ := step?_effect distinct moved
      exact .step stepped
  | submit id call =>
      simp only [move?] at moved
      split at moved
      · rename_i allowed
        cases moved
        exact .submit (unknown_of_knows allowed.1) allowed.2 rfl rfl rfl
      · cases moved
  | cancel id =>
      simp only [move?] at moved
      split at moved
      · rename_i known
        cases moved
        obtain ⟨⟨named, task⟩, member, same⟩ := List.any_eq_true.mp known
        obtain ⟨front, back, tasksBefore, others⟩ := task_split distinct member
        have named : named = id := by simpa using same
        subst named
        refine .cancel tasksBefore others rfl ?_ rfl
        exact removeTask_tasks tasksBefore others
      · cases moved
  | reserve =>
      cases moved
      refine .action rfl station.tryReserve_acts ?_
      unfold tryReserve
      split <;> rfl
  | release slot =>
      simp only [move?] at moved
      split at moved
      · rename_i has
        cases moved
        exact .action rfl (.released has) rfl
      · cases moved
  | pop =>
      cases moved
      refine .action rfl station.popQueued_acts ?_
      unfold popQueued
      split <;> rfl
  | push slot =>
      simp only [move?] at moved
      split at moved
      · rename_i has
        cases moved
        refine .action rfl (station.pushHeld_acts has) ?_
        unfold pushHeld
        split <;> rfl
      · cases moved
  | process id slot =>
      simp only [move?] at moved
      split at moved
      · rename_i allowed
        cases moved
        exact .process (unknown_of_knows allowed.1) allowed.2 rfl rfl rfl
      · cases moved
  | offer packet =>
      cases moved
      exact .action rfl .nothing rfl
  | postprocess enabled =>
      cases moved
      exact .action rfl (.enabled enabled) rfl
  | openSession table config estimator forwards =>
      cases moved
      refine .action rfl (station.addSession_acts _) ?_
      unfold addSession
      dsimp only
      split <;> rfl
  | start =>
      cases moved
      exact .action rfl .nothing rfl
  | stop =>
      cases moved
      exact .action rfl .nothing rfl
  | readdress nodes =>
      cases moved
      exact .action rfl .nothing rfl
  | disturb disturbance =>
      cases moved
      exact .action rfl (.disturbed _) rfl

end Station

end UwbRadio
