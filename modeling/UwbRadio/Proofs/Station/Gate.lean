import UwbRadio.Proofs.Link.Gate
import UwbRadio.Proofs.Station.Effect

/-!
Order in a station. At most one caller is past the gate, and every caller finds the
phase as it expects, whatever events, late copies and other calls do meanwhile.

`Orderly` is this invariant, kept by every move, also by dropping any task.
-/

namespace UwbRadio

namespace Station

variable {slots size capacity : Nat}

/-- Every task finds what it relies on, and no two tasks have one name. -/
structure Orderly (station : Station slots size capacity) : Prop where
  distinct : (station.tasks.map Prod.fst).Nodup
  admits : ∀ entry ∈ station.tasks, ∀ transaction point,
    entry.2.call? = some (transaction, point) → station.link.Admits entry.1 point

theorem orderly_of_fresh {station : Station slots size capacity} (fresh : station.Fresh) :
    station.Orderly := by
  obtain ⟨device, config, handler, link, _, rfl⟩ := fresh
  constructor
  · exact List.nodup_nil
  · intro entry member
    cases member

theorem nodup_entryOf {front back : List (TaskId × Task)} {id : TaskId} {task : Task}
    (distinct : ((front ++ (id, task) :: back).map Prod.fst).Nodup) (next : Option Task) :
    ((front ++ entryOf id next ++ back).map Prod.fst).Nodup := by
  cases next with
  | none =>
      refine distinct.sublist (List.Sublist.map _ ?_)
      rw [entryOf, Option.map_none, Option.toList_none, List.append_nil]
      exact List.Sublist.append_left (List.sublist_cons_self _ _) front
  | some other =>
      rw [List.map_append, List.map_cons] at distinct
      simpa [entryOf] using distinct

/-- While one caller has the gate or takes it, all others wait for it. -/
theorem at_gate_of_holder {link : Link slots size} {id other : TaskId} {point : CallerPoint}
    (holder : link.gate.holder = none ∨ link.gate.holder = some id) (apart : other ≠ id)
    (admits : link.Admits other point) : point = .gate := by
  by_cases atGate : point = .gate
  · exact atGate
  · have held := admits.gate atGate
    rcases holder with free | taken
    · rw [free] at held
      cases held
    · rw [taken] at held
      exact absurd (Option.some.inj held).symm apart

private theorem admits_after {link : Link slots size} {id : TaskId} {next : Option Task}
    {front back : List (TaskId × Task)}
    (moved : ∀ task ∈ next, ∀ transaction point, task.call? = some (transaction, point) →
      link.Admits id point)
    (others : ∀ entry ∈ front ++ back, ∀ transaction point,
      entry.2.call? = some (transaction, point) → link.Admits entry.1 point) :
    ∀ entry ∈ front ++ entryOf id next ++ back, ∀ transaction point,
      entry.2.call? = some (transaction, point) → link.Admits entry.1 point := by
  intro entry member
  rcases List.mem_append.mp member with early | late
  · rcases List.mem_append.mp early with inFront | here
    · exact others entry (List.mem_append_left back inFront)
    · cases next with
      | none => cases here
      | some task =>
          have same : entry = (id, task) := by simpa [entryOf] using here
          subst same
          exact moved task rfl
  · exact others entry (List.mem_append_right front late)

theorem Orderly.step {station after : Station slots size capacity} {id : TaskId} {task : Task}
    {next : Option Task} {given : Option Slot} {front back : List (TaskId × Task)}
    (orderly : station.Orderly)
    (stepped : station.StepEffect id after task next given front back) : after.Orderly := by
  have here : (id, task) ∈ station.tasks := by
    rw [stepped.tasksBefore]
    exact List.mem_append_right front List.mem_cons_self
  have present (entry : TaskId × Task) (member : entry ∈ front ++ back) :
      entry ∈ station.tasks := by
    rw [stepped.tasksBefore]
    rcases List.mem_append.mp member with inFront | inBack
    · exact List.mem_append_left _ inFront
    · exact List.mem_append_right front (List.mem_cons_of_mem _ inBack)
  have kept (order : Link.KeepsOrder station.link after.link) :
      ∀ entry ∈ front ++ back, ∀ transaction point,
        entry.2.call? = some (transaction, point) → after.link.Admits entry.1 point :=
    fun entry member transaction point calls =>
      order.admits (orderly.admits entry (present entry member) transaction point calls)
  -- While a caller moves, every other one is at the gate.
  have waiting (holder : station.link.gate.holder = none ∨ station.link.gate.holder = some id) :
      ∀ entry ∈ front ++ back, ∀ transaction point,
        entry.2.call? = some (transaction, point) → after.link.Admits entry.1 point := by
    intro entry member transaction point calls
    have atGate := at_gate_of_holder holder (stepped.others entry member)
      (orderly.admits entry (present entry member) transaction point calls)
    subst atGate
    exact after.link.admits_gate entry.1
  constructor
  · rw [stepped.tasksAfter]
    have distinct := orderly.distinct
    rw [stepped.tasksBefore] at distinct
    exact nodup_entryOf distinct next
  · rw [stepped.tasksAfter]
    cases stepped.effect.part with
    | call calls turned goesOn =>
        have admits := orderly.admits _ here _ _ calls
        have turns := Link.callerTurns_of_eq turned
        refine admits_after ?_ (waiting (turns.gate_before nofun admits))
        rintro task ⟨⟩ transaction point same
        rw [goesOn] at same
        cases same
        exact turns.admits admits
    | returned calls turned rests =>
        have admits := orderly.admits _ here _ _ calls
        have turns := Link.callerTurns_of_eq turned
        refine admits_after ?_ (waiting (turns.gate_before nofun admits))
        intro task member transaction point same
        rw [rests task member] at same
        cases same
    | event turned =>
        have turns := Link.interruptTurns_of_eq turned
        exact admits_after (by rintro task ⟨⟩ transaction point ⟨⟩) (kept turns.keepsOrder)
    | handled turned =>
        have turns := Link.interruptTurns_of_eq turned
        refine admits_after ?_ (kept turns.keepsOrder)
        intro task absent
        cases absent
    | aside noCall noEvent outside linkAfter =>
        refine admits_after ?_ (kept (by rw [linkAfter]; exact .of_eq rfl rfl))
        intro task member transaction point calls
        rw [outside task member transaction point calls]
        exact Link.admits_gate _ id

theorem Orderly.append {station after : Station slots size capacity} {id : TaskId} {call : Task}
    (orderly : station.Orderly) (unknown : ∀ entry ∈ station.tasks, entry.1 ≠ id)
    (outside : call.Outside) (linkAfter : after.link = station.link)
    (tasksAfter : after.tasks = station.tasks ++ [(id, call)]) : after.Orderly := by
  refine ⟨?_, ?_⟩
  · rw [tasksAfter, List.map_append, List.map_singleton]
    refine List.nodup_append.mpr ⟨orderly.distinct, List.pairwise_singleton _ id, ?_⟩
    intro left known right member equal
    obtain ⟨entry, present, rfl⟩ := List.mem_map.mp known
    exact unknown entry present (equal.trans (List.mem_singleton.mp member))
  · rw [tasksAfter, linkAfter]
    intro entry member transaction point calls
    rcases List.mem_append.mp member with old | new
    · exact orderly.admits entry old transaction point calls
    · rw [List.mem_singleton.mp new] at calls ⊢
      rw [outside transaction point calls]
      exact Link.admits_gate _ id

theorem Orderly.move {station after : Station slots size capacity} {move : Move capacity}
    (orderly : station.Orderly) (moved : station.move? move = some after) : after.Orderly := by
  cases move?_moved orderly.distinct moved with
  | step stepped => exact orderly.step stepped
  | @cancel id after task front back tasksBefore others linkAfter tasksAfter heldAfter =>
      refine ⟨?_, ?_⟩
      · have distinct := orderly.distinct
        rw [tasksBefore] at distinct
        rw [tasksAfter]
        simpa [entryOf] using nodup_entryOf distinct none
      · rw [tasksAfter, linkAfter]
        intro entry member transaction point calls
        have present : entry ∈ station.tasks := by
          rw [tasksBefore]
          rcases List.mem_append.mp member with inFront | inBack
          · exact List.mem_append_left _ inFront
          · exact List.mem_append_right front (List.mem_cons_of_mem _ inBack)
        have admits := orderly.admits entry present transaction point calls
        refine ⟨fun past => ?_, admits.idle, admits.underWay⟩
        have held := admits.gate past
        have apart : station.link.gate.holder ≠ some id := by
          rw [held]
          exact fun same => others entry member (Option.some.inj same)
        exact (congrArg Lock.holder (if_neg apart)).trans held
  | submit unknown starts linkAfter tasksAfter heldAfter =>
      exact orderly.append unknown (Task.outside_of_starts starts) linkAfter tasksAfter
  | process unknown has linkAfter tasksAfter heldAfter =>
      exact orderly.append unknown (by intro transaction point calls; cases calls)
        linkAfter tasksAfter
  | action noTask acted tasksAfter =>
      obtain ⟨bus, pool, queue, linkAfter⟩ := acted.frame
      refine ⟨by rw [tasksAfter]; exact orderly.distinct, ?_⟩
      rw [tasksAfter, linkAfter]
      intro entry member transaction point calls
      have admits := orderly.admits entry member transaction point calls
      exact ⟨admits.gate, admits.idle, admits.underWay⟩

end Station

end UwbRadio
