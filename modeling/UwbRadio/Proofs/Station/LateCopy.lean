import UwbRadio.Proofs.Link.Copy
import UwbRadio.Proofs.Station.Conservation
import UwbRadio.Proofs.Station.Tasks

/-!
A copy that outlives its transaction. The copy knows its transaction only by the
phase, and the phase of a later one can be the same by the time the copy ends. So it
leaves a later transaction alone unless that one is being delivered itself, or has
been abandoned and has no buffer.
-/

namespace UwbRadio

namespace Link

variable {slots size : Nat} {link after : Link slots size}

theorem InterruptTurns.keeps_slot {id : TaskId} {point later : InterruptPoint} {slot : Slot}
    (turns : InterruptTurns link id point (.next after later))
    (holds : point.slot? = some slot) : later.slot? = some slot := by
  cases copies : point.copies? with
  | none =>
      cases point with
      | handover => cases turns
      | event => cases holds
      | statusLock => cases holds
      | readStatus => cases holds
      | clearStatus => cases holds
      | _ => cases copies
  | some taken =>
      have same := InterruptPoint.slot?_of_copies? copies
      rw [holds] at same
      cases same
      rcases turns.copying copies with same | ⟨_, _, same, goesOn, _⟩ | ⟨_, _, _, ended⟩
      · cases same
      · cases same
        exact InterruptPoint.slot?_of_copies? goesOn
      · cases ended
        rfl

theorem InterruptTurns.copies_on {id : TaskId} {point later : InterruptPoint} {slot taken : Slot}
    (turns : InterruptTurns link id point (.next after later))
    (holds : point.slot? = some slot) (copies : later.copies? = some taken) :
    after.phase = link.phase := by
  cases mine : point.copies? with
  | none =>
      cases point with
      | handover => cases turns
      | event => cases holds
      | statusLock => cases holds
      | readStatus => cases holds
      | clearStatus => cases holds
      | _ => cases mine
  | some own =>
      rcases turns.copying mine with same | ⟨_, _, same, _, agrees⟩ | ⟨_, _, _, ended⟩
      · cases same
      · cases same
        exact agrees.phase
      · cases ended
        cases copies

end Link

namespace Station

variable {slots size capacity : Nat} {station after : Station slots size capacity}

def copying? (station : Station slots size capacity) (id : TaskId) : Option Slot :=
  match station.task? id with
  | some (.interrupt point) => point.copies?
  | _ => none

/-- The copy of a task is not dropped, and its name is not given away. -/
def keepsCopy (copy : TaskId) : Rule slots size capacity :=
  fun station move => sparesHolders station move && !move.names copy

theorem point_of_copying? {id : TaskId} {slot : Slot} (copies : station.copying? id = some slot) :
    ∃ point, station.task? id = some (.interrupt point) ∧ point.copies? = some slot := by
  unfold copying? at copies
  split at copies
  · rename_i point found
    exact ⟨point, found, copies⟩
  · cases copies

theorem copying?_of_point {id : TaskId} {point : InterruptPoint}
    (found : station.task? id = some (.interrupt point)) : station.copying? id = point.copies? := by
  rw [copying?, found]

/-- As long as the task is there, it serves the event of its frame. -/
structure HoldsOn (station : Station slots size capacity) (copy : TaskId) (slot : Slot) : Prop where
  orderly : station.Orderly
  holds : ∀ task, station.task? copy = some task →
    ∃ point, task = .interrupt point ∧ point.slot? = some slot

theorem HoldsOn.move {copy : TaskId} {slot : Slot} {move : Move capacity}
    (stays : station.HoldsOn copy slot) (allowed : keepsCopy copy station move = true)
    (moved : station.move? move = some after) : after.HoldsOn copy slot := by
  have unnamed : move.names copy = false := by
    have both := Bool.and_eq_true_iff.mp allowed
    simpa using both.2
  refine ⟨stays.orderly.move moved, ?_⟩
  intro task found
  cases stays.orderly.comesFrom moved found with
  | name names =>
      rw [unnamed] at names
      cases names
  | step mine before effect =>
      obtain ⟨point, rfl, holds⟩ := stays.holds _ before
      obtain ⟨later, rfl, turns⟩ := effect.goes_on
      exact ⟨later, rfl, turns.keeps_slot holds⟩
  | stay unmoved before => exact stays.holds task before

/-- A frame that is being delivered is copied by another task. -/
def DeliveredElsewhere (station : Station slots size capacity) (copy : TaskId) : Prop :=
  station.link.phase = .delivering →
    ∃ other, other ≠ copy ∧ ∃ taken, station.copying? other = some taken

theorem not_copying {id : TaskId} {task : Task} (found : station.task? id = some task)
    (serves : task.servesEvents = false) : station.copying? id = none := by
  rw [copying?, found]
  cases task with
  | interrupt => cases serves
  | _ => rfl

theorem DeliveredElsewhere.stays {copy id : TaskId} {first second : Option Task}
    (elsewhere : station.DeliveredElsewhere copy) (renames : station.Renames after id first second)
    (kept : after.link.phase = .delivering →
      station.link.phase = .delivering ∧ station.copying? id = none) :
    after.DeliveredElsewhere copy := by
  intro delivering
  obtain ⟨before, idle⟩ := kept delivering
  obtain ⟨other, apart, taken, copies⟩ := elsewhere before
  have still : other ≠ id := by
    intro same
    rw [same, idle] at copies
    cases copies
  refine ⟨other, apart, taken, ?_⟩
  rw [copying?, renames.stay other still]
  exact copies

/-- A task of the event side that goes on may have begun a copy itself, or be the old
copy, whose phase is not its own any more. -/
theorem DeliveredElsewhere.event_goes_on {copy id : TaskId} {slot : Slot}
    {point later : InterruptPoint} (elsewhere : station.DeliveredElsewhere copy)
    (stays : station.HoldsOn copy slot)
    (turns : Link.InterruptTurns station.link id point (.next after.link later))
    (renames : station.Renames after id (some (.interrupt point)) (some (.interrupt later))) :
    after.DeliveredElsewhere copy := by
  rcases turns.delivering with ⟨_, _, same, copies⟩ | kept
  · cases same
    obtain ⟨taken, copies⟩ := Option.isSome_iff_exists.mp copies
    intro delivering
    by_cases same : id = copy
    · subst same
      obtain ⟨point', same, holds⟩ := stays.holds _ renames.before
      cases same
      have before := (turns.copies_on holds copies).symm.trans delivering
      obtain ⟨other, apart, taken, copies⟩ := elsewhere before
      refine ⟨other, apart, taken, ?_⟩
      rw [copying?, renames.stay other apart]
      exact copies
    · exact ⟨id, same, taken, by rw [copying?_of_point renames.later, copies]⟩
  · refine elsewhere.stays renames fun delivering => ?_
    rw [copying?_of_point renames.before]
    exact kept delivering

theorem not_copying_of_slot? {id : TaskId} {task : Task} (found : station.task? id = some task)
    (empty : task.slot? = none) : station.copying? id = none := by
  cases task with
  | interrupt point =>
      rw [copying?_of_point found]
      cases copies : point.copies? with
      | none => rfl
      | some taken =>
          have holds := InterruptPoint.slot?_of_copies? copies
          rw [Task.slot?, holds] at empty
          cases empty
  | _ => exact not_copying found rfl

theorem DeliveredElsewhere.move {copy : TaskId} {slot : Slot} {move : Move capacity}
    (elsewhere : station.DeliveredElsewhere copy) (stays : station.HoldsOn copy slot)
    (allowed : keepsCopy copy station move = true)
    (moved : station.move? move = some after) : after.DeliveredElsewhere copy := by
  cases stays.orderly.happens moved with
  | @step id task next given effect renames =>
      cases effect.part with
      | call calls stepped =>
          have turns := Link.callerTurns_of_eq stepped
          refine elsewhere.stays renames fun delivering => ⟨turns.not_delivering delivering, ?_⟩
          cases task with
          | interrupt => cases calls
          | _ => exact not_copying renames.before rfl
      | returned calls stepped =>
          have turns := Link.callerTurns_of_eq stepped
          refine elsewhere.stays renames fun delivering => ⟨turns.not_delivering delivering, ?_⟩
          cases task with
          | interrupt => cases calls
          | _ => exact not_copying renames.before rfl
      | event stepped =>
          exact elsewhere.event_goes_on stays (Link.interruptTurns_of_eq stepped) renames
      | handled stepped =>
          rcases (Link.interruptTurns_of_eq stepped).delivering with ⟨_, _, same, _⟩ | kept
          · cases same
          · refine elsewhere.stays renames fun delivering => ?_
            rw [copying?_of_point renames.before]
            exact kept delivering
      | aside noCall noEvent outside linkAfter =>
          refine elsewhere.stays renames fun delivering => ?_
          rw [linkAfter] at delivering
          exact ⟨delivering, not_copying renames.before noEvent⟩
  | @cancel id task linkAfter renames =>
      refine elsewhere.stays renames fun delivering => ?_
      rw [linkAfter] at delivering
      have spared := (Bool.and_eq_true_iff.mp allowed).1
      rw [sparesHolders, renames.before] at spared
      have empty : task.slot? = none := Option.isNone_iff_eq_none.mp spared
      exact ⟨delivering, not_copying_of_slot? renames.before empty⟩
  | @call move id task names outside quiet linkAfter renames =>
      refine elsewhere.stays renames fun delivering => ?_
      rw [linkAfter] at delivering
      refine ⟨delivering, ?_⟩
      rw [copying?, renames.before]
  | action noTask acted same =>
      obtain ⟨bus, pool, queue, linkAfter⟩ := acted.frame
      intro delivering
      rw [linkAfter] at delivering
      obtain ⟨other, apart, taken, copies⟩ := elsewhere delivering
      exact ⟨other, apart, taken, by rw [copying?, same]; exact copies⟩

/-- The step of the copy gave its buffer back and did nothing else that a caller, the
application or a task can see. -/
structure OnlyReleases (station after : Station slots size capacity) (copy : TaskId)
    (slot : Slot) : Prop where
  phase : after.link.phase = station.link.phase
  status : after.link.status = station.link.status
  completion : after.link.completion = station.link.completion
  last : after.link.last = station.link.last
  sequence : after.link.sequence = station.link.sequence
  queue : after.link.queue = station.link.queue
  delivered : after.link.delivered = station.link.delivered
  owned : ∀ index, after.link.pool.isOwned index =
    (station.link.pool.isOwned index && index != slot.index)
  gone : after.task? copy = none
  others : ∀ other, other ≠ copy → after.task? other = station.task? other

theorem HoldsOn.copy_ends {copy : TaskId} {slot : Slot} (stays : station.HoldsOn copy slot)
    (inCopy : (station.copying? copy).isSome = true) (ends : station.step? copy = some after)
    (gone : after.copying? copy = none) :
    ∃ middle copied task next, Link.Agrees station.link middle ∧
      station.Renames after copy (some task) next ∧
      ((next = none ∧ ∃ result, Link.CopyEnding middle slot copied (.done after.link result)) ∨
        ∃ later, Link.CopyEnding middle slot copied (.next after.link later)) := by
  obtain ⟨taken, copies⟩ := Option.isSome_iff_exists.mp inCopy
  obtain ⟨point, found, copies⟩ := point_of_copying? copies
  obtain ⟨point', same, holds⟩ := stays.holds _ found
  cases same
  have own := InterruptPoint.slot?_of_copies? copies
  rw [holds] at own
  cases own
  obtain ⟨task, next, given, effect, renames⟩ := stays.orderly.step_task ends
  have same := renames.before
  rw [found] at same
  cases same
  rcases effect.of_interrupt with ⟨later, rfl, turns⟩ | ⟨result, rfl, turns⟩
  · rcases turns.copying copies with
      same | ⟨_, _, same, goesOn, _⟩ | ⟨middle, copied, agrees, ended⟩
    · cases same
    · cases same
      rw [copying?_of_point renames.later, goesOn] at gone
      cases gone
    · exact ⟨middle, copied, _, _, agrees, renames, .inr ⟨later, ended⟩⟩
  · rcases turns.copying copies with same | ⟨_, _, same, _, _⟩ | ⟨middle, copied, agrees, ended⟩
    · cases same
    · cases same
    · exact ⟨middle, copied, _, _, agrees, renames, .inl ⟨rfl, result, ended⟩⟩

section ending

variable {copy : TaskId} {slot : Slot}

/-- A copy that ends while a frame is being delivered finishes that transaction. -/
theorem HoldsOn.end_finishes (stays : station.HoldsOn copy slot)
    (inCopy : (station.copying? copy).isSome = true) (ends : station.step? copy = some after)
    (gone : after.copying? copy = none) (delivering : station.link.phase = .delivering) :
    (∃ outcome, after.link.phase = .finished outcome) ∧ after.link.completion = true := by
  obtain ⟨middle, copied, task, next, agrees, renames, turned⟩ := stays.copy_ends inCopy ends gone
  have delivering := agrees.phase.trans delivering
  rcases turned with ⟨_, result, copyEnds⟩ | ⟨later, copyEnds⟩
  · have left := copyEnds.of_delivering delivering
    exact ⟨⟨_, left.1⟩, left.2⟩
  · have left := copyEnds.of_delivering delivering
    exact ⟨⟨_, left.1⟩, left.2⟩

theorem HoldsOn.end_idles (stays : station.HoldsOn copy slot)
    (inCopy : (station.copying? copy).isSome = true) (ends : station.step? copy = some after)
    (gone : after.copying? copy = none) (abandoned : station.link.phase = .abandoned none) :
    after.link.phase = .idle := by
  obtain ⟨middle, copied, task, next, agrees, renames, turned⟩ := stays.copy_ends inCopy ends gone
  have abandoned := agrees.phase.trans abandoned
  rcases turned with ⟨_, result, copyEnds⟩ | ⟨later, copyEnds⟩
  · exact copyEnds.of_abandoned abandoned
  · exact copyEnds.of_abandoned abandoned

theorem HoldsOn.end_releases (stays : station.HoldsOn copy slot)
    (inCopy : (station.copying? copy).isSome = true) (ends : station.step? copy = some after)
    (gone : after.copying? copy = none) (notDelivering : station.link.phase ≠ .delivering)
    (notLeft : station.link.phase ≠ .abandoned none) : station.OnlyReleases after copy slot := by
  obtain ⟨middle, copied, task, next, agrees, renames, turned⟩ := stays.copy_ends inCopy ends gone
  rw [← agrees.phase] at notDelivering notLeft
  rcases turned with ⟨rfl, result, copyEnds⟩ | ⟨later, copyEnds⟩
  · have released := copyEnds.stale_eq notDelivering notLeft
    injection released with linkAfter _
    constructor
    · rw [linkAfter]; exact agrees.phase
    · rw [linkAfter]; exact agrees.status
    · rw [linkAfter]; exact agrees.completion
    · rw [linkAfter]; exact agrees.last
    · rw [linkAfter]; exact agrees.sequence
    · rw [linkAfter]; exact agrees.queue
    · rw [linkAfter]; exact agrees.delivered
    · intro index
      rw [linkAfter, ← Pool.isOwned_of_owned_eq agrees.owned]
      exact Pool.isOwned_release middle.pool slot index
    · exact renames.later
    · exact renames.stay
  · cases copyEnds.stale_eq notDelivering notLeft

theorem HoldsOn.only_releases_iff (stays : station.HoldsOn copy slot)
    (inCopy : (station.copying? copy).isSome = true) (ends : station.step? copy = some after)
    (gone : after.copying? copy = none) :
    station.OnlyReleases after copy slot ↔
      station.link.phase ≠ .delivering ∧ station.link.phase ≠ .abandoned none := by
  constructor
  · intro spared
    have same := spared.phase
    constructor
    · intro delivering
      obtain ⟨⟨outcome, finished⟩, _⟩ := stays.end_finishes inCopy ends gone delivering
      rw [finished, delivering] at same
      cases same
    · intro abandoned
      rw [stays.end_idles inCopy ends gone abandoned, abandoned] at same
      cases same
  · rintro ⟨notDelivering, notLeft⟩
    exact stays.end_releases inCopy ends gone notDelivering notLeft

end ending

theorem Orderly.begins {caller : TaskId} (orderly : station.Orderly)
    (before : station.begun caller = false) (stepped : station.step? caller = some after)
    (later : after.begun caller = true) :
    ∃ exchange : Exchange, ∃ slot, after.link.phase = exchange.initialPhase slot := by
  obtain ⟨task, next, given, effect, renames⟩ := orderly.step_task stepped
  rw [begun, renames.before, Option.any_some] at before
  rw [begun, renames.later] at later
  cases calls : task.call? with
  | some call =>
      obtain ⟨exchange, point⟩ := call
      rw [calls] at before
      rcases effect.of_call calls with ⟨other, reached, rfl, goesOn, turns⟩ | ⟨result, rests, turns⟩
      · rw [Option.any_some, goesOn] at later
        obtain ⟨slot, phase, _⟩ := turns.begins before later
        exact ⟨exchange, slot, phase⟩
      · obtain ⟨other, member, asks⟩ := (Option.any_eq_true _ _).mp later
        rw [rests other member] at asks
        cases asks
  | none =>
      obtain ⟨other, member, asks⟩ := (Option.any_eq_true _ _).mp later
      obtain ⟨call, asks, begun⟩ := (Option.any_eq_true _ _).mp asks
      have atGate := effect.next_outside calls other member call.1 call.2 asks
      rw [atGate] at begun
      cases begun

/-- A copy under way when a later transaction begins, and until it ends. It leaves
the later one alone exactly if no frame of that one is being delivered and it has not
been abandoned without a buffer. Otherwise it finishes the later transaction, whose
own frame another task is still copying, or takes the note away that the radio has to
be silenced. -/
theorem late_copy_only_releases_iff {opened copying preparing started ending ended :
      Station slots size capacity} {copy caller : TaskId} {slot : Slot}
    {earlier meanwhile later : List (Move capacity)} (fresh : opened.Fresh)
    (reached : run? sparesHolders earlier opened = some copying)
    (copies : copying.copying? copy = some slot)
    (goesOn : run? (keepsCopy copy) meanwhile copying = some preparing)
    (unbegun : preparing.begun caller = false) (begins : preparing.step? caller = some started)
    (begun : started.begun caller = true)
    (lasts : run? (keepsCopy copy) later started = some ending)
    (inCopy : (ending.copying? copy).isSome = true) (ends : ending.step? copy = some ended)
    (gone : ended.copying? copy = none) :
    (ending.OnlyReleases ended copy slot ↔
      ending.link.phase ≠ .delivering ∧ ending.link.phase ≠ .abandoned none) ∧
    (ending.link.phase = .delivering →
      (∃ other, other ≠ copy ∧ ∃ taken, ending.copying? other = some taken) ∧
      (∃ outcome, ended.link.phase = .finished outcome) ∧ ended.link.completion = true) ∧
    (ending.link.phase = .abandoned none → ended.link.phase = .idle) := by
  have conserves : copying.Conserves :=
    run?_keeps Conserves (fun _ _ _ conserves allowed moved => conserves.move allowed moved)
      (conserves_of_fresh fresh) reached
  have held : copying.HoldsOn copy slot := by
    refine ⟨conserves.orderly, ?_⟩
    intro task found
    obtain ⟨point, same, copies⟩ := point_of_copying? copies
    rw [found] at same
    cases same
    exact ⟨point, rfl, InterruptPoint.slot?_of_copies? copies⟩
  have prepared : preparing.HoldsOn copy slot :=
    run?_keeps (HoldsOn · copy slot) (fun _ _ _ stays allowed moved => stays.move allowed moved)
      held goesOn
  have begunHeld : started.HoldsOn copy slot := by
    have allowed : keepsCopy copy preparing (.step caller) = true := rfl
    exact prepared.move allowed begins
  have notYet : started.DeliveredElsewhere copy := by
    obtain ⟨exchange, slot, phase⟩ := prepared.orderly.begins unbegun begins begun
    intro delivering
    rw [phase] at delivering
    cases exchange <;> cases slot <;> cases delivering
  have lasting : ending.HoldsOn copy slot ∧ ending.DeliveredElsewhere copy :=
    run?_keeps (fun station => station.HoldsOn copy slot ∧ station.DeliveredElsewhere copy)
      (fun _ _ _ both allowed moved =>
        ⟨both.1.move allowed moved, both.2.move both.1 allowed moved⟩)
      ⟨begunHeld, notYet⟩ lasts
  obtain ⟨stays, elsewhere⟩ := lasting
  refine ⟨stays.only_releases_iff inCopy ends gone, ?_, stays.end_idles inCopy ends gone⟩
  intro delivering
  exact ⟨elsewhere delivering, stays.end_finishes inCopy ends gone delivering⟩

def givesUpInCopy : List (Move capacity) :=
  [.submit 1 (.receive (.timeout 10) 0), .step 1, .step 1, .step 1, .step 1, .step 1, .step 1,
    .step 1, .step 1, .submit 2 (.feed .received), .step 2, .disturb (.pass 10)]

def silencesRadio : List (Move capacity) :=
  [.step 1, .submit 3 (.receive .blocking 0), .step 3, .step 3, .step 3, .step 3]

def getsFrame : List (Move capacity) :=
  [.step 3, .step 3, .step 3, .step 3, .step 3, .submit 4 (.feed .received), .step 4,
    .step 2, .step 2, .step 2]

def waitsForFrame : List (Move capacity) :=
  [.step 3, .step 3, .step 3, .step 3, .step 3, .step 2, .step 2, .step 2]

/-- The first copy, whose caller has left, only gives its buffer back. -/
theorem late_copy_only_releases_before_delivery :
    ∃ opened copying preparing started ending ended : Station 2 127 0,
      opened.Fresh ∧ run? sparesHolders givesUpInCopy opened = some copying ∧
      run? (keepsCopy 2) silencesRadio copying = some preparing ∧
      preparing.step? 3 = some started ∧ started.begun 3 = true ∧
      run? (keepsCopy 2) waitsForFrame started = some ending ∧
      ending.step? 2 = some ended ∧ ending.OnlyReleases ended 2 ⟨0⟩ := by
  have evaluated : (do
      let opened : Station 2 127 0 ← open? Device.unused {} .transfer
      let copying ← run? sparesHolders givesUpInCopy opened
      let preparing ← run? (keepsCopy 2) silencesRadio copying
      let started ← preparing.step? 3
      let ending ← run? (keepsCopy 2) waitsForFrame started
      let ended ← ending.step? 2
      return (copying.copying? 2, preparing.begun 3, started.begun 3, ending.link.phase,
        (ending.copying? 2).isSome, ended.copying? 2)) =
      some (some ⟨0⟩, false, true, .waitingResponse ⟨1⟩, true, none) := by
    cbv
  obtain ⟨opened, isOpen, evaluated⟩ := Option.bind_eq_some_iff.mp evaluated
  obtain ⟨copying, reached, evaluated⟩ := Option.bind_eq_some_iff.mp evaluated
  obtain ⟨preparing, goesOn, evaluated⟩ := Option.bind_eq_some_iff.mp evaluated
  obtain ⟨started, begins, evaluated⟩ := Option.bind_eq_some_iff.mp evaluated
  obtain ⟨ending, lasts, evaluated⟩ := Option.bind_eq_some_iff.mp evaluated
  obtain ⟨ended, ends, evaluated⟩ := Option.bind_eq_some_iff.mp evaluated
  have seen := Option.some.inj evaluated
  simp only [Prod.mk.injEq] at seen
  obtain ⟨copies, unbegun, begun, phase, inCopy, gone⟩ := seen
  have fresh := fresh_of_open? isOpen
  have exactly := late_copy_only_releases_iff fresh reached copies goesOn unbegun begins begun
    lasts inCopy ends gone
  have harmless : ending.link.phase ≠ .delivering ∧ ending.link.phase ≠ .abandoned none := by
    rw [phase]
    exact ⟨fun same => (by cases same), fun same => (by cases same)⟩
  exact ⟨opened, copying, preparing, started, ending, ended, fresh, reached, goesOn, begins,
    begun, lasts, ends, exactly.1.mpr harmless⟩

/-- The first copy, whose caller has left, finishes the second reception with a fault
and wakes its caller while the frame of that one is still being copied. -/
theorem late_copy_finishes_another_reception :
    ∃ opened copying preparing started ending ended : Station 2 127 0,
      opened.Fresh ∧ run? sparesHolders givesUpInCopy opened = some copying ∧
      copying.copying? 2 = some ⟨0⟩ ∧ copying.begun 1 = true ∧
      run? (keepsCopy 2) silencesRadio copying = some preparing ∧
      (preparing.task? 1).isNone = true ∧ preparing.step? 3 = some started ∧
      started.begun 3 = true ∧ run? (keepsCopy 2) getsFrame started = some ending ∧
      ending.copying? 2 = some ⟨0⟩ ∧ ending.copying? 4 = some ⟨1⟩ ∧
      ending.step? 2 = some ended ∧ ended.copying? 2 = none ∧
      ended.link.phase = .finished .receiveFault ∧ ended.link.completion = true ∧
      ¬ ending.OnlyReleases ended 2 ⟨0⟩ := by
  have evaluated : (do
      let opened : Station 2 127 0 ← open? Device.unused {} .transfer
      let copying ← run? sparesHolders givesUpInCopy opened
      let preparing ← run? (keepsCopy 2) silencesRadio copying
      let started ← preparing.step? 3
      let ending ← run? (keepsCopy 2) getsFrame started
      let ended ← ending.step? 2
      return (copying.copying? 2, copying.begun 1, (preparing.task? 1).isNone, started.begun 3,
        ending.copying? 2, ending.copying? 4, ending.link.phase, ended.copying? 2,
        ended.link.phase, ended.link.completion)) =
      some (some ⟨0⟩, true, true, true, some ⟨0⟩, some ⟨1⟩, .delivering, none,
        .finished .receiveFault, true) := by
    cbv
  obtain ⟨opened, isOpen, evaluated⟩ := Option.bind_eq_some_iff.mp evaluated
  obtain ⟨copying, reached, evaluated⟩ := Option.bind_eq_some_iff.mp evaluated
  obtain ⟨preparing, goesOn, evaluated⟩ := Option.bind_eq_some_iff.mp evaluated
  obtain ⟨started, begins, evaluated⟩ := Option.bind_eq_some_iff.mp evaluated
  obtain ⟨ending, lasts, evaluated⟩ := Option.bind_eq_some_iff.mp evaluated
  obtain ⟨ended, ends, evaluated⟩ := Option.bind_eq_some_iff.mp evaluated
  have seen := Option.some.inj evaluated
  simp only [Prod.mk.injEq] at seen
  obtain ⟨copies, busy, left, begun, late, other, delivering, gone, finished, woken⟩ := seen
  refine ⟨opened, copying, preparing, started, ending, ended, fresh_of_open? isOpen, reached,
    copies, busy, goesOn, left, begins, begun, lasts, late, other, ends, gone, finished, woken, ?_⟩
  intro spared
  have same := spared.phase
  rw [finished, delivering] at same
  cases same

end Station

end UwbRadio
