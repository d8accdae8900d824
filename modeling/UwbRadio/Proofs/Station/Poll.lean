import UwbRadio.Proofs.Link.Progress
import UwbRadio.Proofs.Station.Locks
import UwbRadio.Station.Settle

/-!
Polling a task. It goes on as the caller's steps or those of the event side lead it, and
comes to rest where they wait or end. What every move of a station keeps, polling keeps.
-/

namespace UwbRadio

namespace Station

variable {slots size capacity : Nat} {station after : Station slots size capacity} {id : TaskId}

theorem poll_of_rest (budget : Nat) (rests : station.step? id = none) :
    poll id budget station = station := by
  cases budget with
  | zero => rfl
  | succ budget => rw [poll, rests]

theorem poll_of_step (budget : Nat) (stepped : station.step? id = some after) :
    poll id (budget + 1) station = poll id budget after := by
  rw [poll, stepped]

theorem Sound.step? (sound : station.Sound) (stepped : station.step? id = some after) :
    after.Sound := by
  have moved : station.move? (.step id) = some after := stepped
  exact sound.move moved

theorem Sound.poll (sound : station.Sound) (id : TaskId) (budget : Nat) :
    (poll id budget station).Sound := by
  induction budget generalizing station with
  | zero => exact sound
  | succ budget ih =>
      cases stepped : station.step? id with
      | none => rw [poll_of_rest _ stepped]; exact sound
      | some next => rw [poll_of_step _ stepped]; exact ih (sound.step? stepped)

private theorem lookup_replace (entries : List (TaskId × Task)) (id other : TaskId) (task : Task) :
    (entries.map fun entry => if entry.1 = id then (id, task) else entry).lookup other =
      if other = id then (entries.lookup id).map fun _ => task else entries.lookup other := by
  induction entries with
  | nil => simp
  | cons entry rest ih =>
      obtain ⟨name, first⟩ := entry
      by_cases mine : name = id
      · subst mine
        by_cases same : other = name
        · subst same
          simp
        · have missed : (other == name) = false := beq_eq_false_iff_ne.mpr same
          simp only [List.map_cons, if_true, List.lookup_cons, missed, ih, if_neg same]
      · by_cases same : other = name
        · subst same
          simp [mine]
        · have missed : (other == name) = false := beq_eq_false_iff_ne.mpr same
          have apart : (id == name) = false := beq_eq_false_iff_ne.mpr fun equal => mine equal.symm
          simp only [List.map_cons, if_neg mine, List.lookup_cons, missed, ih, apart]

theorem task?_replaceTask (station : Station slots size capacity) (id other : TaskId)
    (task : Task) : (station.replaceTask id task).task? other =
      if other = id then (station.task? id).map fun _ => task else station.task? other :=
  lookup_replace station.tasks id other task

theorem replaceTask_again (station : Station slots size capacity) (id : TaskId)
    (first second : Task) (link : Link slots size) :
    { station.replaceTask id first with link }.replaceTask id second =
      { station with link }.replaceTask id second := by
  unfold replaceTask
  simp only [List.map_map]
  congr 2
  funext entry
  by_cases mine : entry.1 = id <;> simp [mine]

private theorem filter_replace (entries : List (TaskId × Task)) (id : TaskId) (task : Task) :
    (entries.map fun entry => if entry.1 = id then (id, task) else entry).filter
      (fun entry => entry.1 != id) = entries.filter fun entry => entry.1 != id := by
  induction entries with
  | nil => rfl
  | cons entry rest ih =>
      by_cases mine : entry.1 = id
      · simp [mine, ih]
      · simp [mine, ih]

theorem finishTask_again (station : Station slots size capacity) (id : TaskId) (task : Task)
    (link : Link slots size) (result : TaskResult) :
    { station.replaceTask id task with link }.finishTask id result =
      { station with link }.finishTask id result := by
  have same := filter_replace station.tasks id task
  unfold finishTask removeTask replaceTask
  simp only [same]
  rfl

section steps

variable {point result : Type} {task : point → Task} {finish : result → TaskResult}
  {step : Link slots size → point → Turn (Link slots size) point result}

def landing (station : Station slots size capacity) (id : TaskId) (task : point → Task)
    (finish : result → TaskResult) :
    Turn (Link slots size) point result → Option (Station slots size capacity)
  | .wait => none
  | .next link later => some ({ station with link }.replaceTask id (task later))
  | .done link result => some ({ station with link }.finishTask id (finish result))

/-- The steps of the task `id` are those of `step`. -/
def GoesBy (capacity : Nat) (id : TaskId) (task : point → Task) (finish : result → TaskResult)
    (step : Link slots size → point → Turn (Link slots size) point result) : Prop :=
  ∀ (station : Station slots size capacity) (at_ : point), station.task? id = some (task at_) →
    station.step? id = station.landing id task finish (step station.link at_)

theorem goesBy_caller (id : TaskId) (exchange : Exchange) :
    GoesBy capacity id (.exchange exchange) (fun result => .exchanged (result.map some))
      fun (link : Link slots size) point => link.callerStep id exchange point := by
  intro station at_ found
  simp only [Station.step?, found, turn]
  cases station.link.callerStep id exchange at_ <;> rfl

theorem goesBy_events (id : TaskId) :
    GoesBy capacity id .interrupt .handled
      fun (link : Link slots size) point => link.interruptStep id point := by
  intro station at_ found
  simp only [Station.step?, found, turn]
  cases station.link.interruptStep id at_ <;> rfl

theorem landing_again (station : Station slots size capacity) (id : TaskId) (first : Task)
    (turn : Turn (Link slots size) point result) :
    (station.replaceTask id first).landing id task finish turn =
      station.landing id task finish turn := by
  cases turn with
  | wait => rfl
  | next link later => exact congrArg some (station.replaceTask_again id first _ link)
  | done link result => exact congrArg some (station.finishTask_again id first link _)

theorem task?_replaceTask_self {first : Task} (found : station.task? id = some first)
    (second : Task) : (station.replaceTask id second).task? id = some second := by
  rw [task?_replaceTask, if_pos rfl, found, Option.map_some]

theorem poll_after (goesBy : GoesBy capacity id task finish step) {count : Nat}
    {link : Link slots size} {at_ : point} {turn : Turn (Link slots size) point result}
    (steps : Turn.After step count link at_ turn) (budget : Nat)
    {target : Station slots size capacity} :
    ∀ {station : Station slots size capacity}, station.link = link →
      station.task? id = some (task at_) → station.landing id task finish turn = some target →
        poll id (count + budget) station = poll id budget target := by
  induction steps with
  | last =>
      intro station same found lands
      subst same
      rw [Nat.add_comm]
      exact poll_of_step budget ((goesBy station _ found).trans lands)
  | @more count link at_ middle later turn goesOn rest ih =>
      intro station same found lands
      subst same
      have stepped := goesBy station at_ found
      rw [goesOn] at stepped
      have found : { station with link := middle }.task? id = some (task at_) := found
      rw [Nat.add_right_comm, poll_of_step _ stepped]
      refine ih rfl (task?_replaceTask_self found _) ?_
      rw [landing_again]
      cases turn <;> exact lands

theorem poll_next (goesBy : GoesBy capacity id task finish step) {count budget : Nat}
    {at_ later : point} {link : Link slots size}
    (steps : Turn.After step count station.link at_ (.next link later))
    (found : station.task? id = some (task at_)) (rests : step link later = .wait)
    (within : count ≤ budget) :
    poll id budget station = { station with link }.replaceTask id (task later) := by
  obtain ⟨rest, rfl⟩ := Nat.exists_eq_add_of_le within
  rw [poll_after goesBy steps rest rfl found rfl]
  have found : { station with link }.task? id = some (task at_) := found
  apply poll_of_rest
  rw [goesBy _ later (task?_replaceTask_self found _)]
  exact congrArg (landing _ id task finish) rests

theorem step?_of_gone (gone : station.task? id = none) : station.step? id = none := by
  simp only [Station.step?, gone]

theorem task?_removeTask (station : Station slots size capacity) (id : TaskId) :
    (station.removeTask id).task? id = none := by
  rw [task?, removeTask, List.lookup_eq_none_iff]
  intro entry member
  have other : entry.1 ≠ id := bne_iff_ne.mp (List.mem_filter.mp member).2
  exact bne_iff_ne.mpr other.symm

theorem task?_finishTask (station : Station slots size capacity) (id : TaskId)
    (result : TaskResult) : (station.finishTask id result).task? id = none := by
  cases result <;> exact station.task?_removeTask id

theorem poll_done (goesBy : GoesBy capacity id task finish step) {count budget : Nat}
    {at_ : point} {link : Link slots size} {result : result}
    (steps : Turn.After step count station.link at_ (.done link result))
    (found : station.task? id = some (task at_)) (within : count ≤ budget) :
    poll id budget station = { station with link }.finishTask id (finish result) := by
  obtain ⟨rest, rfl⟩ := Nat.exists_eq_add_of_le within
  rw [poll_after goesBy steps rest rfl found rfl]
  exact poll_of_rest _ (step?_of_gone (task?_finishTask _ id _))

end steps

end Station

end UwbRadio
