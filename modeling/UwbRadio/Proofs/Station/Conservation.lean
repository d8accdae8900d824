import Mathlib
import UwbRadio.Proofs.Link.Balance
import UwbRadio.Proofs.Station.Gate

/-!
No buffer is lost and none is given back twice. Whatever calls, events, timeouts, bus
errors and dropped calls a run holds, every reserved buffer has one holder: the phase,
a queued answer, a copy or the processing of an answer under way, or the application.
-/

namespace UwbRadio

namespace Pool

variable {slots size : Nat}

theorem count_ownedIndices (pool : Pool slots size) (slot : Slot) :
    (pool.ownedIndices.map Slot.mk).count slot = pool.tally slot := by
  have once : ((pool.ownedIndices).map Slot.mk).Nodup := by
    apply List.Pairwise.map Slot.mk _ pool.ownedIndices_nodup
    intro left right apart same
    exact apart (congrArg Slot.index same)
  have listed : slot ∈ pool.ownedIndices.map Slot.mk ↔ pool.isOwned slot.index = true := by
    rw [← mem_ownedIndices, List.mem_map]
    constructor
    · rintro ⟨index, member, rfl⟩
      exact member
    · intro member
      exact ⟨slot.index, member, rfl⟩
  cases owned : pool.isOwned slot.index with
  | true =>
      have present := List.count_pos_iff.mpr (listed.mpr owned)
      have bound := List.nodup_iff_count.mp once slot
      rw [tally, owned, Bool.toNat_true]
      omega
  | false =>
      have absent : slot ∉ pool.ownedIndices.map Slot.mk := by
        intro member
        rw [listed.mp member] at owned
        cases owned
      rw [tally, owned, List.count_eq_zero.mpr absent, Bool.toNat_false]

end Pool

theorem Link.Balanced.outstanding_eq {slots size : Nat} {link : Link slots size}
    {others : List Slot} (balanced : link.Balanced others) :
    link.pool.outstanding = (link.claims ++ others).length := by
  have same : (link.pool.ownedIndices.map Slot.mk).Perm (link.claims ++ others) := by
    apply List.perm_iff_count.mpr
    intro slot
    rw [Pool.count_ownedIndices, List.count_append]
    exact (balanced slot).symm
  rw [Pool.outstanding_eq, ← same.length_eq, List.length_map]

namespace Task

theorem slot?_of_call? {task : Task} {exchange : Exchange} {point : CallerPoint}
    (calls : task.call? = some (exchange, point)) : task.slot? = none := by
  cases task with
  | interrupt => cases calls
  | process => cases calls
  | _ => rfl

end Task

/-- A step of a task leaves what the task has in its hands, or what it gave the
application, in front of the buffers of the others. -/
theorem Effect.balanced {slots size : Nat} {link after : Link slots size} {id : TaskId}
    {task : Task} {next : Option Task} {given : Option Slot} {others : List Slot}
    (effect : Effect link id task after next given)
    (admits : ∀ exchange point, task.call? = some (exchange, point) → link.Admits id point)
    (balanced : link.Balanced (task.slot?.toList ++ others)) :
    after.Balanced ((next.bind Task.slot?).toList ++ (given.toList ++ others)) := by
  cases effect with
  | @call task next exchange point after later calls stepped goesOn =>
      rw [Task.slot?_of_call? calls] at balanced
      rw [Option.bind_some, Task.slot?_of_call? goesOn]
      exact (Link.callerTurns_of_eq stepped).balanced (admits _ _ calls) balanced
  | returned calls stepped rests =>
      rw [Task.slot?_of_call? calls] at balanced
      have empty : next.bind Task.slot? = none := by
        cases next with
        | none => rfl
        | some other => exact (rests other rfl).2.1
      rw [empty]
      exact (Link.callerTurns_of_eq stepped).balanced (admits _ _ calls) balanced
  | event stepped => exact (Link.interruptTurns_of_eq stepped).balanced balanced
  | handled stepped => exact (Link.interruptTurns_of_eq stepped).balanced balanced
  | reserved reserved linkAfter =>
      rw [linkAfter]
      exact Link.Balanced.reserve balanced (Pool.reserve_reserves reserved)
  | popped popped linkAfter =>
      rw [linkAfter]
      exact Link.Balanced.pop balanced popped
  | processed free linkAfter =>
      rw [linkAfter]
      exact Link.Balanced.releaseSlot balanced
  | quiet noCall noSlot noEvent rests linkAfter =>
      rw [noSlot] at balanced
      have empty : next.bind Task.slot? = none := by
        cases next with
        | none => rfl
        | some other => exact (rests other rfl).2.1
      rw [empty, linkAfter]
      exact balanced

theorem Action.balanced {slots size : Nat} {link after : Link slots size}
    {held later hands : List Slot} (action : Action link held after later)
    (balanced : link.Balanced (held ++ hands)) : after.Balanced (later ++ hands) := by
  have erased (slot : Slot) (has : slot ∈ held) :
      link.Balanced (slot :: (held.erase slot ++ hands)) :=
    balanced.perm ((List.perm_cons_erase has).append_right hands)
  have new (slot : Slot) (unheld : slot ∉ held ++ hands) : held.erase slot = held :=
    List.erase_of_not_mem fun member => unheld (List.mem_append_left hands member)
  cases action with
  | nothing => exact balanced
  | disturbed bus => exact balanced.congr rfl rfl
  | enabled enabled => exact balanced.congr rfl rfl
  | @reserved slot pool reserved =>
      have reserves := Pool.tryReserve_reserves reserved
      rw [new slot (balanced.free_not_held reserves.free).2]
      exact balanced.reserve reserves
  | exhausted exhausted => exact balanced.congr rfl (Pool.tryReserve_none exhausted)
  | @released slot has => exact (erased slot has).releaseSlot
  | @popped item queue popped =>
      have claimed : item.slot ∈ link.claims := by
        unfold Ranging.Queue.pop? at popped
        split at popped
        · cases popped
        · rename_i first rest queued
          cases popped
          rw [Link.claims, queued]
          exact List.mem_append_right _ List.mem_cons_self
      rw [new item.slot (balanced.claimed_not_held claimed)]
      exact balanced.pop popped
  | @pushed slot queue has pushed =>
      have queued := (erased slot has).enqueue
      rw [Link.enqueue, pushed] at queued
      exact queued

namespace Station

variable {slots size capacity : Nat}

def inHands (tasks : List (TaskId × Task)) : List Slot :=
  tasks.filterMap fun entry => entry.2.slot?

/-- The buffer of each holder: of the phase and of the queued answers, of the copies
and the processing of answers under way, and those of the application. -/
def holders (station : Station slots size capacity) : List Slot :=
  station.link.claims ++ (inHands station.tasks ++ station.held)

/-- The event side and the processing of an answer are not dropped while they have a
buffer in their hands. Callers may be dropped anywhere. -/
def sparesHolders : Rule slots size capacity
  | station, .cancel id => (station.task? id).all fun task => task.slot?.isNone
  | _, _ => true

structure Conserves (station : Station slots size capacity) : Prop where
  orderly : station.Orderly
  balanced : station.link.Balanced (station.held ++ inHands station.tasks)

theorem conserves_of_fresh {station : Station slots size capacity} (fresh : station.Fresh) :
    station.Conserves := by
  constructor
  · exact orderly_of_fresh fresh
  · obtain ⟨bus, sequence, info, config, handler, rfl⟩ := fresh.eq_ofLink
    intro slot
    exact (Pool.tally_empty slot).symm

private theorem inHands_split (front back : List (TaskId × Task)) (id : TaskId)
    (task : Option Task) (held lost : List Slot) :
    (held ++ (inHands (front ++ entryOf id task ++ back) ++ lost)).Perm
      ((task.bind Task.slot?).toList ++ (held ++ (inHands (front ++ back) ++ lost))) := by
  have here : inHands (entryOf id task) = (task.bind Task.slot?).toList := by
    cases task with
    | none => rfl
    | some task =>
        cases held : task.slot? <;> simp [inHands, entryOf, held]
  have before : inHands (front ++ entryOf id task ++ back) =
      inHands front ++ inHands (entryOf id task) ++ inHands back := by
    simp only [inHands, List.filterMap_append]
  have between : inHands (front ++ back) = inHands front ++ inHands back := by
    simp only [inHands, List.filterMap_append]
  apply List.perm_iff_count.mpr
  intro slot
  rw [before, between, here]
  simp only [List.count_append]
  omega

/-- The buffers are in balance but for those that are lost: a task that was dropped had
them in its hands. -/
structure Balances (station : Station slots size capacity) (lost : List Slot) : Prop where
  orderly : station.Orderly
  balanced : station.link.Balanced (station.held ++ (inHands station.tasks ++ lost))

theorem balances_of_fresh {station : Station slots size capacity} (fresh : station.Fresh) :
    station.Balances [] := by
  have conserves := conserves_of_fresh fresh
  exact ⟨conserves.orderly,
    (List.append_nil (inHands station.tasks)).symm ▸ conserves.balanced⟩

theorem Balances.step {station after : Station slots size capacity} {id : TaskId} {task : Task}
    {next : Option Task} {given : Option Slot} {front back : List (TaskId × Task)}
    {lost : List Slot} (balances : station.Balances lost)
    (stepped : station.StepEffect id after task next given front back) : after.Balances lost := by
  have here : (id, task) ∈ station.tasks := by
    rw [stepped.tasksBefore]
    exact List.mem_append_right front List.mem_cons_self
  have taken : station.link.Balanced
      (task.slot?.toList ++ (station.held ++ (inHands (front ++ back) ++ lost))) := by
    have balanced := balances.balanced
    rw [stepped.tasksBefore, List.append_cons] at balanced
    exact balanced.perm (inHands_split front back id (some task) station.held lost)
  have left := stepped.effect.balanced (balances.orderly.admits _ here) taken
  have kept : (given.toList ++ (station.held ++ (inHands (front ++ back) ++ lost))) =
      after.held ++ (inHands (front ++ back) ++ lost) := by
    rw [stepped.heldAfter]
    cases given with
    | none => rfl
    | some slot =>
        have unheld : slot ∉ station.held ++ (inHands (front ++ back) ++ lost) :=
          left.not_held_behind
        have new : station.held.erase slot = station.held :=
          List.erase_of_not_mem fun member => unheld (List.mem_append_left _ member)
        rw [keeping, new]
        rfl
  constructor
  · exact balances.orderly.step stepped
  · rw [stepped.tasksAfter]
    rw [kept] at left
    exact left.perm (inHands_split front back id next after.held lost).symm

theorem mem_inHands {tasks : List (TaskId × Task)} {id : TaskId} {task : Task} {slot : Slot}
    (member : (id, task) ∈ tasks) (holds : task.slot? = some slot) : slot ∈ inHands tasks :=
  List.mem_filterMap.mpr ⟨(id, task), member, holds⟩

theorem mem_tasks {station : Station slots size capacity} {id : TaskId} {task : Task}
    (found : station.task? id = some task) : (id, task) ∈ station.tasks := by
  obtain ⟨front, back, listed, _⟩ := List.lookup_eq_some_iff.mp found
  rw [listed]
  exact List.mem_append_right front List.mem_cons_self

/-- Whoever has a buffer in its hands is the only one to have it. -/
theorem Balances.alone {station : Station slots size capacity} {lost : List Slot} {id : TaskId}
    {task : Task} {slot : Slot} (balances : station.Balances lost)
    (found : station.task? id = some task) (holds : task.slot? = some slot) :
    slot ∉ station.link.claims ∧ slot ∉ station.held ∧
      ∀ other their, other ≠ id → station.task? other = some their → their.slot? ≠ some slot := by
  obtain ⟨front, back, listed, _⟩ := task_split balances.orderly.distinct (mem_tasks found)
  have before : station.tasks = front ++ entryOf id (some task) ++ back := by
    rw [listed, List.append_cons]
    rfl
  have split := inHands_split front back id (some task) station.held lost
  rw [← before, Option.bind_some, holds] at split
  have balanced : station.link.Balanced
      ([] ++ slot :: (station.held ++ (inHands (front ++ back) ++ lost))) :=
    balances.balanced.perm split
  have elsewhere := balanced.not_held_behind
  refine ⟨fun claimed => ?_, fun held => elsewhere (List.mem_append_left _ held), ?_⟩
  · exact balanced.claimed_not_held claimed List.mem_cons_self
  · intro other their apart present has
    have member : (other, their) ∈ front ++ back := by
      have among := mem_tasks present
      rw [listed] at among
      rcases List.mem_append.mp among with early | late
      · exact List.mem_append_left back early
      · rcases List.mem_cons.mp late with same | late
        · exact absurd (congrArg Prod.fst same) apart
        · exact List.mem_append_right front late
    exact elsewhere (List.mem_append_right _ (List.mem_append_left _ (mem_inHands member has)))

theorem Balances.owned {station : Station slots size capacity} {lost : List Slot} {slot : Slot}
    (balances : station.Balances lost)
    (holds : slot ∈ station.link.claims ∨ slot ∈ station.held ∨ slot ∈ inHands station.tasks) :
    station.link.pool.isOwned slot.index = true := by
  have counted := balances.balanced slot
  rw [List.count_append, List.count_append] at counted
  have some : 0 < station.link.pool.tally slot := by
    rcases holds with claimed | held | hands
    · have positive := List.count_pos_iff.mpr claimed
      omega
    · have positive := List.count_pos_iff.mpr held
      omega
    · have positive := List.count_pos_iff.mpr hands
      omega
  cases owned : station.link.pool.isOwned slot.index with
  | true => rfl
  | false => simp [Pool.tally, owned] at some

/-- What is lost with a move: the buffer in the hands of a task that is dropped. -/
def losing (station : Station slots size capacity) : Move capacity → List Slot
  | .cancel id => ((station.task? id).bind Task.slot?).toList
  | _ => []

theorem losing_of_no_drop {station : Station slots size capacity} {move : Move capacity}
    (keeps : ∀ id, move ≠ .cancel id) : station.losing move = [] := by
  cases move with
  | cancel id => exact absurd rfl (keeps id)
  | _ => rfl

theorem Balances.move {station after : Station slots size capacity} {move : Move capacity}
    {lost : List Slot} (balances : station.Balances lost)
    (moved : station.move? move = some after) : after.Balances (station.losing move ++ lost) := by
  have orderly := balances.orderly.move moved
  have balanced := balances.balanced
  have distinct := balances.orderly.distinct
  cases move?_moved distinct moved with
  | step stepped => exact balances.step stepped
  | @cancel id after task front back tasksBefore others linkAfter tasksAfter heldAfter =>
      have present : station.task? id = some task := by
        apply List.lookup_eq_some_iff.mpr
        refine ⟨front, back, tasksBefore, ?_⟩
        intro entry member
        exact bne_iff_ne.mpr (others entry (List.mem_append_left back member)).symm
      have gone : station.losing (.cancel id) = task.slot?.toList := by
        rw [losing, present, Option.bind_some]
      have listed : station.tasks = front ++ entryOf id (some task) ++ back := by
        rw [tasksBefore, List.append_cons]
        rfl
      have left := inHands_split front back id (some task) station.held lost
      rw [Option.bind_some, ← listed] at left
      refine ⟨orderly, ?_⟩
      rw [linkAfter, heldAfter, tasksAfter, gone]
      refine Link.Balanced.congr (balanced.perm (left.trans ?_)) rfl rfl
      apply List.perm_iff_count.mpr
      intro slot
      simp only [List.count_append]
      omega
  | @submit id call after unknown starts linkAfter tasksAfter heldAfter =>
      have left := inHands_split station.tasks [] id (some call) station.held lost
      rw [Option.bind_some, Task.slot?_of_starts starts, List.append_nil, List.append_nil] at left
      refine ⟨orderly, ?_⟩
      rw [linkAfter, heldAfter, tasksAfter]
      exact balanced.perm left.symm
  | @process id slot after unknown has linkAfter tasksAfter heldAfter =>
      have left := inHands_split station.tasks [] id (some (.process (.buffer ⟨slot⟩)))
        (station.held.erase slot) lost
      rw [List.append_nil, List.append_nil] at left
      refine ⟨orderly, ?_⟩
      rw [linkAfter, heldAfter, tasksAfter]
      refine balanced.perm (List.Perm.trans ?_ left.symm)
      exact (List.perm_cons_erase has).append_right _
  | action noTask acted tasksAfter =>
      have kept : station.losing move = [] := by
        refine losing_of_no_drop fun id same => ?_
        subst same
        cases noTask
      refine ⟨orderly, ?_⟩
      rw [tasksAfter, kept]
      exact acted.balanced balanced

theorem Conserves.move {station after : Station slots size capacity} {move : Move capacity}
    (conserves : station.Conserves) (allowed : sparesHolders station move = true)
    (moved : station.move? move = some after) : after.Conserves := by
  have none : station.losing move = [] := by
    cases move with
    | cancel id =>
        rw [sparesHolders, Option.all_eq_true] at allowed
        cases found : station.task? id with
        | none => rw [losing, found]; rfl
        | some task =>
            rw [losing, found, Option.bind_some,
              Option.isNone_iff_eq_none.mp (allowed task found)]
            rfl
    | _ => rfl
  have before : station.Balances [] :=
    ⟨conserves.orderly, (List.append_nil (inHands station.tasks)).symm ▸ conserves.balanced⟩
  have balances := before.move moved
  rw [none] at balances
  exact ⟨balances.orderly, List.append_nil (inHands after.tasks) ▸ balances.balanced⟩

/-- Every reserved buffer has exactly one holder and a free one has none, so the
number of reserved buffers is that of the holders. -/
theorem reserved_buffers_have_one_holder {station after : Station slots size capacity}
    {moves : List (Move capacity)} (fresh : station.Fresh)
    (ran : run? sparesHolders moves station = some after) :
    (∀ slot, after.link.pool.isOwned slot.index = true → after.holders.count slot = 1) ∧
      (∀ slot, after.link.pool.isOwned slot.index = false → slot ∉ after.holders) ∧
      after.link.pool.outstanding = after.holders.length := by
  have conserves : after.Conserves :=
    run?_keeps Conserves (fun _ _ _ conserves allowed moved => conserves.move allowed moved)
      (conserves_of_fresh fresh) ran
  have balanced : after.link.Balanced (inHands after.tasks ++ after.held) :=
    conserves.balanced.perm List.perm_append_comm
  have counted (slot : Slot) : after.holders.count slot = after.link.pool.tally slot := by
    rw [holders, List.count_append]
    exact balanced slot
  refine ⟨?_, ?_, balanced.outstanding_eq⟩
  · intro slot owned
    rw [counted, Pool.tally, owned]
    rfl
  · intro slot free
    apply List.count_eq_zero.mp
    rw [counted, Pool.tally, free]
    rfl

/-- A reception whose frame is being copied is dropped, another one begins, and the
application takes a buffer as well. -/
def droppedReception : List (Move capacity) :=
  [.submit 1 (.receive .blocking 0), .step 1, .step 1, .submit 2 (.feed .received), .step 2,
    .cancel 1, .submit 3 (.receive .blocking 0), .step 3, .step 3, .step 3, .step 3, .step 3,
    .reserve]

theorem three_reserved_buffers_have_one_holder :
    ∃ station after : Station 3 127 0,
      station.Fresh ∧ run? sparesHolders droppedReception station = some after ∧
        after.link.phase.slot? = some ⟨1⟩ ∧ inHands after.tasks = [⟨0⟩] ∧ after.held = [⟨2⟩] ∧
        after.link.pool.outstanding = after.holders.length := by
  have evaluated : ((open? Device.unused {} .transfer : Option (Station 3 127 0)).bind
      (run? sparesHolders droppedReception)).map
        (fun after => (after.link.phase.slot?, inHands after.tasks, after.held)) =
      some (some ⟨1⟩, [⟨0⟩], [⟨2⟩]) := by
    cbv
  obtain ⟨after, found, seen⟩ := Option.map_eq_some_iff.mp evaluated
  obtain ⟨station, opened, ran⟩ := Option.bind_eq_some_iff.mp found
  have fresh := fresh_of_open? opened
  have shown := Prod.mk.injEq _ _ _ _ ▸ seen
  refine ⟨station, after, fresh, ran, shown.1, ?_⟩
  have rest := Prod.mk.injEq _ _ _ _ ▸ shown.2
  exact ⟨rest.1, rest.2, (reserved_buffers_have_one_holder fresh ran).2.2⟩

end Station

end UwbRadio
