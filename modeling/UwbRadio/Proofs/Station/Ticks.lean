import UwbRadio.Proofs.Ranging.Table
import UwbRadio.Proofs.Station.Calls
import UwbRadio.Proofs.Station.Poll

/-!
The ticks of a ranging session. A tick, on its own or of the schedule, begins when it
takes the request to the pair whose turn it is, and ends when the request does; only
then is it the next pair's turn. Everything else that a task does leaves the rotation
as it is, and so does every call of the application but those that make or start the
session, stop it or give it other nodes.
-/

namespace UwbRadio

open Ranging (LinkedSession Session Table)

namespace Task

def asks? : Task → Option (Request × CallerPoint)
  | .tick (.asking request point) | .schedule (.asking request point) => some (request, point)
  | _ => none

theorem eq_of_asks? {task : Task} {request : Request} {point : CallerPoint}
    (asks : task.asks? = some (request, point)) :
    task = .tick (.asking request point) ∨ task = .schedule (.asking request point) := by
  cases task with
  | tick at_ =>
      cases at_ with
      | begin => cases asks
      | asking => cases asks; exact .inl rfl
  | schedule at_ =>
      cases at_ with
      | asking => cases asks; exact .inr rfl
      | _ => cases asks
  | _ => cases asks

theorem call?_of_asks? {task : Task} {request : Request} {point : CallerPoint}
    (asks : task.asks? = some (request, point)) : task.call? = some (.send request, point) := by
  rcases eq_of_asks? asks with rfl | rfl
  · rfl
  · rfl

theorem asks?_of_starts {task : Task} (starts : task.starts = true) : task.asks? = none := by
  cases task with
  | tick at_ =>
      cases at_ with
      | begin => rfl
      | asking => cases starts
  | schedule at_ =>
      cases at_ with
      | asking => cases starts
      | _ => rfl
  | _ => rfl

end Task

structure Ranging.Rotation where
  index : Nat
  running : Bool
  nodes : Nat
  size : Nat

namespace Ranging.Session

variable {capacity : Nat}

def requestTo (session : Session capacity) (pair : Pair) : Request :=
  ((((Request.ofPayload ((session.requestMessage pair).encode .little)).to pair.first).withMode
    (.timeout session.config.requestTimeout)).expectResponse
      session.config.responseTimeout).asRanging

theorem nextRequest?_eq_some {session : Session capacity} {request : Request}
    (turn : session.nextRequest? = some request) :
    0 < session.table.size ∧ ∃ pair,
      session.table.pairs[session.index % session.table.size]? = some pair ∧
        session.nextPair? = some pair ∧ request = session.requestTo pair := by
  have found : session.nextPair?.map session.requestTo = some request := turn
  obtain ⟨pair, next, rfl⟩ := Option.map_eq_some_iff.mp found
  have inside : 0 < session.table.size := by
    unfold nextPair? at next
    have bound := (List.getElem?_eq_some_iff.mp next).1
    rw [Table.size]
    omega
  refine ⟨inside, pair, ?_, next, rfl⟩
  rw [nextPair?, Nat.max_eq_left inside] at next
  exact next

def rotation (session : Session capacity) : Rotation :=
  { index := session.index
    running := session.running
    nodes := session.table.nodes
    size := session.table.size }

theorem process_rotation (session : Session capacity) (payload : Bytes) :
    (session.process payload).2.rotation = session.rotation := by
  unfold process
  split
  · rfl
  · split
    · rfl
    · dsimp only
      split
      · rfl
      · rename_i stored
        obtain ⟨nodes, size⟩ := Table.update_keeps stored
        rw [rotation, rotation, nodes, size]

theorem process_faults (session : Session capacity) (payload : Bytes) :
    (session.process payload).2.faults = session.faults := by
  unfold process
  split
  · rfl
  · split
    · rfl
    · dsimp only
      split <;> rfl

end Ranging.Session

/-- What a step of a task does to the session, and what becomes of its request. -/
inductive Ticks {capacity : Nat} (session : Option (Session capacity)) :
    Task → Option (Session capacity) → Option Task → Prop
  | begins {now task next request} (has : session = some now) (rests : task.asks? = none)
      (runs : task = .tick .begin ∨ now.running = true)
      (turn : now.nextRequest? = some request) (asks : next.asks? = some (request, .gate)) :
      Ticks session task session (some next)
  | goesOn {task next request point later} (asked : task.asks? = some (request, point))
      (asks : next.asks? = some (request, later)) : Ticks session task session (some next)
  | ends {now task next request point flags} (has : session = some now)
      (asked : task.asks? = some (request, point)) (rests : next.bind Task.asks? = none) :
      Ticks session task (some (now.endTick flags)) next
  | aside {task next after} (rests : task.asks? = none) (stays : next.bind Task.asks? = none)
      (same : after.map Session.rotation = session.map Session.rotation)
      (kept : after.map Session.faults = session.map Session.faults) :
      Ticks session task after next

namespace Station

variable {slots size capacity : Nat}

def Ticked (station : Station slots size capacity) (task : Task) :
    Turn (Station slots size capacity) Task TaskResult → Prop
  | .wait => True
  | .next after next => Ticks station.session task after.session (some next)
  | .done after _ => Ticks station.session task after.session none

theorem afterDelay_ticks {session : Session capacity} {task : Task} (rests : task.asks? = none) :
    Ticks (some session) task (some session)
      (some (.schedule (LinkedSession.afterDelay session))) := by
  unfold LinkedSession.afterDelay
  split
  · rename_i running
    split
    · exact .aside rests rfl rfl rfl
    · rename_i request taken
      exact .begins rfl rests (.inr running) taken rfl
  · exact .aside rests rfl rfl rfl

theorem Turns.ticked {station : Station slots size capacity} {id : TaskId} {task : Task}
    {turn : Turn (Station slots size capacity) Task TaskResult}
    (turns : station.Turns id task turn) : station.Ticked task turn := by
  cases turns with
  | wait => trivial
  | tickBegins opened turn =>
      rw [Ticked, opened]
      exact .begins rfl rfl (.inl rfl) turn rfl
  | tickAsks opened | scheduleAsks opened =>
      rw [Ticked, opened]
      exact .goesOn rfl rfl
  | tickEnds opened | scheduleEnds opened =>
      rw [Ticked, opened]
      exact .ends rfl rfl rfl
  | firstDelayOver opened | periodOver opened =>
      rw [Ticked, opened]
      exact afterDelay_ticks rfl
  | @processed session item opened =>
      rw [Ticked, opened]
      exact .aside rfl rfl (congrArg some (session.process_rotation _))
        (congrArg some (session.process_faults _))
  | idleTick opened | scheduled opened | stopped opened | restarted opened | firstDelay opened
  | period opened | popped opened =>
      rw [Ticked, opened]
      exact .aside rfl rfl rfl rfl
  | _ => exact .aside rfl rfl rfl rfl

variable {station after : Station slots size capacity} {id : TaskId}

/-- A step of a station is a turn of one of its tasks, which goes on at another point or is
gone afterwards. -/
theorem step?_turns {task : Task} (found : station.task? id = some task)
    (stepped : station.step? id = some after) :
    (∃ middle next, station.Turns id task (.next middle next) ∧
      after = middle.replaceTask id next ∧ after.task? id = some next) ∨
    ∃ middle result, station.Turns id task (.done middle result) ∧
      after = middle.finishTask id result ∧ after.task? id = none := by
  simp only [step?, found] at stepped
  split at stepped
  · cases stepped
  · rename_i middle next turned
    cases stepped
    have turns := turns_of_eq turned
    have here : middle.task? id = some task := by
      rw [task?, turns.turned.2.1]
      exact found
    exact .inl ⟨middle, next, turns, rfl, task?_replaceTask_self here next⟩
  · rename_i middle result turned
    cases stepped
    exact .inr ⟨middle, result, turns_of_eq turned, rfl, task?_finishTask middle id result⟩

theorem step?_ticks {task : Task} (found : station.task? id = some task)
    (stepped : station.step? id = some after) :
    Ticks station.session task after.session (after.task? id) := by
  rcases step?_turns found stepped with
    ⟨middle, next, turns, rfl, later⟩ | ⟨middle, result, turns, rfl, later⟩
  · rw [later]
    exact turns.ticked
  · rw [later]
    cases result <;> exact turns.ticked

theorem session_of_readdress {nodes : List UInt16}
    (moved : station.move? (.readdress nodes) = some after)
    (complete : ∀ session ∈ station.session, session.table.Complete) :
    after.session.map Session.rotation = station.session.map Session.rotation := by
  cases moved
  unfold readdress onSession
  dsimp only
  cases opened : station.session with
  | none => rfl
  | some session =>
      rw [Option.map_some, Option.map_some, Option.map_some]
      split
      · rfl
      · rename_i table accepted
        obtain ⟨sameNodes, sameSize⟩ := (complete session opened).withAddresses accepted
        rw [Session.rotation, Session.rotation, sameNodes, sameSize]

theorem session_of_openSession {table : Table capacity} {config : RangingConfig}
    {estimator : Duration → Ranging.Range} {forwards : Bool}
    (moved : station.move? (.openSession table config estimator forwards) = some after) :
    after.session = station.session.or
      (some (.ofTable table config estimator (if forwards then some [] else none))) := by
  cases moved
  unfold addSession setPostprocess
  dsimp only
  cases station.session <;> simp

def asks? (station : Station slots size capacity) (id : TaskId) : Option (Request × CallerPoint) :=
  (station.task? id).bind Task.asks?

def asking (station : Station slots size capacity) (id : TaskId) : Bool :=
  (station.asks? id).isSome

def ticking (station : Station slots size capacity) : Nat :=
  station.tasks.countP fun entry => entry.2.asks?.isSome

theorem asking_of_task {task : Task} (found : station.task? id = some task) :
    station.asking id = task.asks?.isSome := by
  rw [asking, asks?, found, Option.bind_some]

theorem asking_of_asks {call : Request × CallerPoint} (asks : station.asks? id = some call) :
    station.asking id = true := by
  rw [asking, asks, Option.isSome_some]

theorem asking_of_rest (rests : station.asks? id = none) : station.asking id = false := by
  rw [asking, rests, Option.isSome_none]

/-- What a step of the task does to the session and to the request of its tick. -/
inductive TickMove (station after : Station slots size capacity) (id : TaskId) : Prop
  | begins {task session request} (found : station.task? id = some task)
      (has : station.session = some session)
      (runs : task = .tick .begin ∨ session.running = true)
      (turn : session.nextRequest? = some request) (rested : station.asks? id = none)
      (asks : after.asks? id = some (request, .gate)) (kept : after.session = station.session)
  | goesOn {request point later} (asked : station.asks? id = some (request, point))
      (asks : after.asks? id = some (request, later)) (kept : after.session = station.session)
  | ends {session request point flags} (has : station.session = some session)
      (asked : station.asks? id = some (request, point)) (rests : after.asks? id = none)
      (ended : after.session = some (session.endTick flags))
  | aside (rested : station.asks? id = none) (rests : after.asks? id = none)
      (same : after.session.map Session.rotation = station.session.map Session.rotation)
      (kept : after.session.map Session.faults = station.session.map Session.faults)

theorem Orderly.tickMove (orderly : station.Orderly) (stepped : station.step? id = some after) :
    station.TickMove after id := by
  obtain ⟨task, next, given, effect, renames⟩ := orderly.step_task stepped
  have ticks := step?_ticks renames.before stepped
  have before : station.asks? id = task.asks? := by
    rw [asks?, renames.before, Option.bind_some]
  have later : after.asks? id = next.bind Task.asks? := by
    rw [asks?, renames.later]
  rw [renames.later] at ticks
  generalize sessionAfter : after.session = session at ticks
  cases ticks with
  | begins has rests runs turn asks =>
      exact .begins renames.before has runs turn (before.trans rests) (later.trans asks)
        sessionAfter
  | goesOn asked asks => exact .goesOn (before.trans asked) (later.trans asks) sessionAfter
  | ends has asked rests =>
      exact .ends has (before.trans asked) (later.trans rests) sessionAfter
  | aside rests stays same kept =>
      rw [← sessionAfter] at same kept
      exact .aside (before.trans rests) (later.trans stays) same kept

theorem call?_of_asks? {request : Request} {point : CallerPoint}
    (asks : station.asks? id = some (request, point)) :
    station.call? id = some (.send request, point) := by
  obtain ⟨task, found, asks⟩ := Option.bind_eq_some_iff.mp asks
  rw [call?_of_task found]
  exact Task.call?_of_asks? asks

theorem Orderly.asks_unstepped {move : Move capacity} {call : Request × CallerPoint}
    (orderly : station.Orderly) (moved : station.move? move = some after)
    (unstepped : move ≠ .step id) (asks : after.asks? id = some call) :
    station.asks? id = some call := by
  obtain ⟨task, found, asks⟩ := Option.bind_eq_some_iff.mp asks
  rcases orderly.task_unstepped moved unstepped found with same | starts | ⟨slot, rfl⟩
  · rw [asks?, same]
    exact asks
  · rw [Task.asks?_of_starts starts] at asks
    cases asks
  · cases asks

theorem Orderly.asking_unstepped {move : Move capacity} (orderly : station.Orderly)
    (moved : station.move? move = some after) (unstepped : move ≠ .step id)
    (asking : after.asking id = true) : station.asking id = true := by
  obtain ⟨call, asks⟩ := Option.isSome_iff_exists.mp asking
  exact Option.isSome_iff_exists.mpr ⟨call, orderly.asks_unstepped moved unstepped asks⟩

private theorem countP_entryOf (id : TaskId) (next : Option Task) :
    (entryOf id next).countP (fun entry => entry.2.asks?.isSome) =
      (next.bind Task.asks?).isSome.toNat := by
  cases next with
  | none => rfl
  | some task => cases asks : task.asks?.isSome <;> simp [entryOf, asks]

theorem Orderly.ticking_step (orderly : station.Orderly) (stepped : station.step? id = some after) :
    after.ticking + (station.asking id).toNat = station.ticking + (after.asking id).toNat := by
  obtain ⟨task, next, given, front, back, effect⟩ := step?_effect orderly.distinct stepped
  have own : (station.asking id).toNat =
      (entryOf id (some task)).countP fun entry => entry.2.asks?.isSome := by
    rw [countP_entryOf, asking, asks?, effect.renames.before]
  have later : (after.asking id).toNat =
      (entryOf id next).countP fun entry => entry.2.asks?.isSome := by
    rw [countP_entryOf, asking, asks?, effect.renames.later]
  have before : station.tasks = front ++ entryOf id (some task) ++ back := by
    rw [effect.tasksBefore, List.append_cons]
    rfl
  rw [ticking, ticking, before, effect.tasksAfter, own, later]
  simp only [List.countP_append]
  omega

theorem Orderly.ticking_move {move : Move capacity} (orderly : station.Orderly)
    (moved : station.move? move = some after) (unstepped : ∀ id, move ≠ .step id)
    (kept : ∀ id, move = .cancel id → station.asking id = false) :
    after.ticking = station.ticking := by
  cases move?_moved orderly.distinct moved with
  | @step id => exact absurd rfl (unstepped id)
  | @cancel id after task front back tasksBefore others linkAfter tasksAfter =>
      have found : station.task? id = some task := by
        have absent : front.lookup id = none := by
          apply List.lookup_eq_none_iff.mpr
          intro entry member
          exact bne_iff_ne.mpr (others entry (List.mem_append_left back member)).symm
        rw [task?, tasksBefore, List.lookup_append, absent, Option.none_or, List.lookup_cons_self]
      have rests : task.asks?.isSome = false :=
        (asking_of_task found).symm.trans (kept id rfl)
      rw [ticking, ticking, tasksBefore, tasksAfter]
      simp [List.countP_append, rests]
  | @submit id call after unknown starts linkAfter tasksAfter =>
      rw [ticking, ticking, tasksAfter]
      simp [List.countP_append, Task.asks?_of_starts starts]
  | @process id slot after unknown has linkAfter tasksAfter =>
      rw [ticking, ticking, tasksAfter]
      simp [List.countP_append, Task.asks?]
  | action noTask acted tasksAfter => rw [ticking, ticking, tasksAfter]

def startsRanging : List (Move 3) :=
  [.openSession ⟨0, 4, Ranging.pairsOf [1, 2, 3]⟩ {} (fun _ => ⟨0⟩) false, .start]

end Station

end UwbRadio
