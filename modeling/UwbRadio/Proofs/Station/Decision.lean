import UwbRadio.Proofs.Link.Decision
import UwbRadio.Proofs.Station.LateCopy
import UwbRadio.Proofs.Station.Reading

/-!
The first terminal event decides. From the step at which a transaction begins until
another call comes past the gate, a record is kept of what the event side is told. What
the caller reports, and whether it does so now, can be read off the record and the
clock; all events but the first that ends the transaction pass without a trace.
-/

namespace UwbRadio

namespace Station

variable {slots size capacity : Nat} {station after : Station slots size capacity}

def entersNone : Rule slots size capacity
  | station, .step id => !((station.call? id).any fun call => call.2 == .gate)
  | _, _ => true

def tell (told : Told) (station : Station slots size capacity) (move : Move capacity)
    (_ : Station slots size capacity) : Told :=
  match move with
  | .step id =>
      match station.task? id with
      | some (.interrupt point) => station.link.tells point told
      | _ => told
  | _ => told

theorem tell_of_no_step {move : Move capacity} (other : ∀ id, move ≠ .step id) (told : Told) :
    tell told station move after = told := by
  cases move with
  | step id => exact absurd rfl (other id)
  | _ => rfl

theorem tell_of_no_event {id : TaskId} {task : Task} (found : station.task? id = some task)
    (noEvent : task.servesEvents = false) (told : Told) :
    tell told station (.step id) after = told := by
  rw [tell, found]
  cases task with
  | interrupt => cases noEvent
  | _ => rfl

def toldIn (station : Station slots size capacity) (moves : List (Move capacity)) : Told :=
  recordOf tell moves {} station

/-- A transaction of `caller` and what has been told of it. -/
structure Deciding (station : Station slots size capacity) (caller : TaskId) (answered : Bool)
    (told : Told) : Prop where
  claiming : station.Claiming
  drains : station.link.Drains answered told
  waits : ∀ other exchange point, station.call? other = some (exchange, point) →
    point = .gate ∨ (other = caller ∧ point.begun = true)
  present : ∀ exchange point, station.call? caller = some (exchange, point) →
    point.begun = true → station.link.Shows answered told
  untouched : told.terminal? answered = none → told.copied = none
  copies : ∀ other, (station.copying? other).isSome = true →
    told.terminal? answered = some .received ∧ told.copied = none
  single : ∀ left right, (station.copying? left).isSome = true →
    (station.copying? right).isSome = true → left = right

variable {caller : TaskId} {answered : Bool} {told : Told}

theorem Renames.stay_copying {id other : TaskId} {first second : Option Task}
    (renames : station.Renames after id first second) (apart : other ≠ id) :
    after.copying? other = station.copying? other := by
  rw [copying?, copying?, renames.stay other apart]

/-- What becomes of the record when a move tells nothing, begins no copy, and lets no
call past the gate. -/
theorem Deciding.congr (deciding : station.Deciding caller answered told)
    (claiming : after.Claiming) (drains : after.link.Drains answered told)
    (calls : ∀ other exchange point, after.call? other = some (exchange, point) →
      point = .gate ∨ (other = caller ∧ point.begun = true ∧ after.link.Shows answered told) ∨
        (station.call? other = some (exchange, point) ∧
          (station.link.Shows answered told → after.link.Shows answered told)))
    (still : ∀ other, (after.copying? other).isSome = true →
      (station.copying? other).isSome = true) : after.Deciding caller answered told := by
  constructor
  · exact claiming
  · exact drains
  · intro other exchange point asks
    rcases calls other exchange point asks with atGate | ⟨mine, begun, _⟩ | ⟨before, _⟩
    · exact .inl atGate
    · exact .inr ⟨mine, begun⟩
    · exact deciding.waits other exchange point before
  · intro exchange point asks begun
    rcases calls caller exchange point asks with rfl | ⟨_, _, shows_⟩ | ⟨before, kept⟩
    · cases begun
    · exact shows_
    · exact kept (deciding.present exchange point before begun)
  · exact deciding.untouched
  · exact fun other copies => deciding.copies other (still other copies)
  · exact fun left right first second => deciding.single left right (still left first)
      (still right second)

theorem Deciding.aside {mover : TaskId} {first second : Option Task}
    (deciding : station.Deciding caller answered told) (claiming : after.Claiming)
    (renames : station.Renames after mover first second)
    (outside : ∀ task ∈ second, task.Outside) (idle : after.copying? mover = none)
    (phase : after.link.phase = station.link.phase)
    (completion : after.link.completion = station.link.completion) :
    after.Deciding caller answered told := by
  apply deciding.congr claiming (deciding.drains.congr phase)
  · intro other exchange point calls
    by_cases same : other = mover
    · subst same
      obtain ⟨task, found, calls⟩ := Option.bind_eq_some_iff.mp calls
      rw [renames.later] at found
      exact .inl (outside task found exchange point calls)
    · rw [renames.stay_call same] at calls
      exact .inr (.inr ⟨calls, fun shows_ => shows_.congr phase completion⟩)
  · intro other copies
    by_cases same : other = mover
    · subst same
      rw [idle] at copies
      cases copies
    · rw [← renames.stay_copying same]
      exact copies

theorem copying?_of_no_event {id : TaskId} {next : Option Task} (becomes : station.task? id = next)
    (idle : ∀ point, next ≠ some (.interrupt point)) : station.copying? id = none := by
  rw [copying?, becomes]
  split
  · rename_i point
    exact absurd rfl (idle point)
  · rfl

theorem Deciding.caller_steps {task : Task} {next : Option Task} {given : Option Slot}
    {exchange : Exchange} {point : CallerPoint} (deciding : station.Deciding caller answered told)
    (claiming : after.Claiming) (effect : Effect station.link caller task after.link next given)
    (renames : station.Renames after caller (some task) next)
    (calls : task.call? = some (exchange, point)) (begun : point.begun = true) :
    after.Deciding caller answered told := by
  have mine : station.call? caller = some (exchange, point) :=
    (call?_of_task renames.before).trans calls
  have shows_ := deciding.present exchange point mine begun
  have idle := copying?_of_no_event renames.later
    (effect.next_idle (Task.no_event_of_call? calls))
  have still (other : TaskId) (copies : (after.copying? other).isSome = true) :
      (station.copying? other).isSome = true := by
    by_cases same : other = caller
    · subst same
      rw [idle] at copies
      cases copies
    · rw [← renames.stay_copying same]
      exact copies
  have others (other : TaskId) (transaction : Exchange) (at_ : CallerPoint) (apart : other ≠ caller)
      (asks : after.call? other = some (transaction, at_)) : at_ = .gate := by
    rw [renames.stay_call apart] at asks
    rcases deciding.waits other transaction at_ asks with atGate | ⟨same, _⟩
    · exact atGate
    · exact absurd same apart
  rcases effect.of_call calls with ⟨_, later, rfl, goesOn, turns⟩ | ⟨result, rests, turns⟩
  · apply deciding.congr claiming (turns.drains begun deciding.drains) ?_ still
    intro other transaction at_ asks
    by_cases same : other = caller
    · subst same
      rw [call?_of_task renames.later, goesOn] at asks
      cases asks
      exact .inr (.inl ⟨rfl, turns.begun_stays begun, turns.shows begun shows_⟩)
    · exact .inl (others other transaction at_ same asks)
  · apply deciding.congr claiming (turns.drains begun deciding.drains) ?_ still
    intro other transaction at_ asks
    exact .inl (others other transaction at_ (renames.call_elsewhere rests asks).1 asks)

section event

variable {id : TaskId} {point : InterruptPoint} {next : Option Task}
  {turn : InterruptTurn slots size}

theorem Deciding.current (deciding : station.Deciding caller answered told)
    (found : station.task? id = some (.interrupt point)) (copies : point.copies?.isSome = true) :
    told.terminal? answered = some .received ∧ told.copied = none := by
  apply deciding.copies id
  rw [copying?_of_point found]
  exact copies

theorem Deciding.copies_alone (deciding : station.Deciding caller answered told)
    (found : station.task? id = some (.interrupt point))
    (turns : Link.InterruptTurns station.link id point turn) (copies : Link.copiesOn turn = true)
    {other : TaskId} (apart : other ≠ id) : ¬ (station.copying? other).isSome = true := by
  intro first
  cases mine : point.copies? with
  | some slot =>
      refine apart (deciding.single other id first ?_)
      rw [copying?_of_point found, mine]
      rfl
  -- A second copy would begin with an event that ends the transaction a second time.
  | none =>
      have open_ := (turns.copy_begins mine copies deciding.drains).1
      rw [(deciding.copies other first).1] at open_
      cases open_

theorem Deciding.event_steps (deciding : station.Deciding caller answered told)
    (claiming : after.Claiming) (turns : Link.InterruptTurns station.link id point turn)
    (reached : turn.after? = some after.link)
    (renames : station.Renames after id (some (.interrupt point)) next)
    (noCall : ∀ task ∈ next, task.call? = none)
    (copying : (after.copying? id).isSome = Link.copiesOn turn) :
    after.Deciding caller answered (station.link.tells point told) := by
  have own := deciding.claiming.claims id point renames.before
  have current := deciding.current renames.before
  have before (other : TaskId) (exchange : Exchange) (at_ : CallerPoint)
      (asks : after.call? other = some (exchange, at_)) :
      station.call? other = some (exchange, at_) :=
    (renames.call_elsewhere noCall asks).2
  have alone (other : TaskId) (apart : other ≠ id)
      (copies : (after.copying? other).isSome = true) : ¬ (after.copying? id).isSome = true := by
    rw [copying]
    rw [renames.stay_copying apart] at copies
    exact fun second => deciding.copies_alone renames.before turns second apart copies
  constructor
  · exact claiming
  · exact (turns.drains deciding.drains).holds reached
  · exact fun other exchange at_ asks =>
      deciding.waits other exchange at_ (before other exchange at_ asks)
  · intro exchange at_ asks begun
    have shows_ := deciding.present exchange at_ (before caller exchange at_ asks) begun
    exact (turns.shows own shows_ current).holds reached
  · intro open_
    have undecided : told.terminal? answered = none :=
      (Option.or_eq_none_iff.mp ((Told.terminal?_hears told answered _).symm.trans open_)).1
    have idle : point.copies? = none := by
      cases copies : point.copies? with
      | none => rfl
      | some slot =>
          rw [(current (by rw [copies]; rfl)).1] at undecided
          cases undecided
    exact Link.tells_uncopied (deciding.untouched undecided) (station.link.finds_of_no_copy idle)
  · intro other copies
    by_cases same : other = id
    · subst same
      rw [copying] at copies
      exact turns.copies_tell own deciding.drains current deciding.untouched copies
    · rw [renames.stay_copying same] at copies
      obtain ⟨terminal, uncopied⟩ := deciding.copies other copies
      refine ⟨Told.terminal?_late terminal _, ?_⟩
      cases mine : point.copies? with
      | some slot =>
          refine absurd (deciding.single other id copies ?_) same
          rw [copying?_of_point renames.before, mine]
          rfl
      | none => exact Link.tells_uncopied uncopied (station.link.finds_of_no_copy mine)
  · intro left right first second
    by_cases mine : left = id
    · by_cases his : right = id
      · exact mine.trans his.symm
      · subst mine
        exact absurd first (alone right his second)
    · by_cases his : right = id
      · subst his
        exact absurd second (alone left mine first)
      · rw [renames.stay_copying mine] at first
        rw [renames.stay_copying his] at second
        exact deciding.single left right first second

end event

theorem Deciding.calls_step {id : TaskId} {task : Task} {next : Option Task}
    {given : Option Slot} {exchange : Exchange} {point : CallerPoint}
    (deciding : station.Deciding caller answered told) (claiming : after.Claiming)
    (allowed : entersNone station (.step id) = true)
    (effect : Effect station.link id task after.link next given)
    (renames : station.Renames after id (some task) next)
    (calls : task.call? = some (exchange, point)) :
    after.Deciding caller answered (tell told station (.step id) after) := by
  have asks := (call?_of_task renames.before).trans calls
  rw [tell_of_no_event renames.before (Task.no_event_of_call? calls)]
  rcases deciding.waits id exchange point asks with rfl | ⟨rfl, begun⟩
  · rw [entersNone, asks] at allowed
    cases allowed
  · exact deciding.caller_steps claiming effect renames calls begun

theorem Deciding.move {move : Move capacity} (deciding : station.Deciding caller answered told)
    (allowed : entersNone station move = true) (moved : station.move? move = some after) :
    after.Deciding caller answered (tell told station move after) := by
  have claiming := deciding.claiming.move moved
  have told_ {id : TaskId} {point : InterruptPoint}
      (found : station.task? id = some (.interrupt point)) :
      tell told station (.step id) after = station.link.tells point told := by
    rw [tell, found]
  cases deciding.claiming.orderly.happens moved with
  | @step id task next given effect renames =>
      cases effect.part with
      | call calls => exact deciding.calls_step claiming allowed effect renames calls
      | returned calls => exact deciding.calls_step claiming allowed effect renames calls
      | event stepped =>
          have turns := Link.interruptTurns_of_eq stepped
          rw [told_ renames.before]
          refine deciding.event_steps claiming turns rfl renames (by rintro task ⟨⟩; rfl) ?_
          rw [copying?_of_point renames.later]
          rfl
      | handled stepped =>
          have turns := Link.interruptTurns_of_eq stepped
          rw [told_ renames.before]
          refine deciding.event_steps claiming turns rfl renames nofun ?_
          rw [copying?_of_no_event renames.later nofun]
          rfl
      | aside noCall noEvent outside linkAfter =>
          rw [tell_of_no_event renames.before noEvent]
          refine deciding.aside claiming renames outside
            (copying?_of_no_event renames.later (effect.next_idle noEvent)) ?_ ?_
          · rw [linkAfter]
          · rw [linkAfter]
  | cancel linkAfter renames =>
      refine deciding.aside claiming renames nofun (copying?_of_no_event renames.later nofun) ?_ ?_
      · rw [linkAfter]; rfl
      · rw [linkAfter]; rfl
  | @call move id task names outside quiet linkAfter renames =>
      have idle : after.copying? id = none := by
        cases serves : task.servesEvents with
        | true => exact not_copying_of_slot? renames.later (quiet serves)
        | false => exact not_copying renames.later serves
      rw [tell_of_no_step (Move.ne_step_of_names names)]
      refine deciding.aside claiming renames ?_ idle (by rw [linkAfter]) (by rw [linkAfter])
      rintro task ⟨⟩
      exact outside
  | action noTask acted same =>
      obtain ⟨bus, pool, queue, linkAfter⟩ := acted.frame
      have phase : after.link.phase = station.link.phase := by rw [linkAfter]
      have completion : after.link.completion = station.link.completion := by rw [linkAfter]
      rw [tell_of_no_step (Move.ne_step_of_noTask noTask)]
      apply deciding.congr claiming (deciding.drains.congr phase)
      · intro other exchange point calls
        rw [call?, same] at calls
        exact .inr (.inr ⟨calls, fun shows_ => shows_.congr phase completion⟩)
      · intro other copies
        rw [copying?, same] at copies
        exact copies

theorem copying?_of_unserved (unserved : ∀ entry ∈ station.tasks, entry.2.servesEvents = false)
    (id : TaskId) : station.copying? id = none := by
  cases found : station.task? id with
  | none => rw [copying?, found]
  | some task =>
      obtain ⟨front, back, listed, _⟩ := List.lookup_eq_some_iff.mp found
      refine not_copying found (unserved (id, task) ?_)
      rw [listed]
      exact List.mem_append_right front List.mem_cons_self

theorem awaits_initialPhase (exchange : Exchange) (slot : Option Slot) :
    (exchange.initialPhase slot).awaits? = some slot.isSome := by
  cases exchange <;> cases slot <;> rfl

theorem Claiming.deciding {preparing started : Station slots size capacity} {exchange : Exchange}
    {point : CallerPoint} (claiming : preparing.Claiming) (expecting : preparing.Expecting)
    (unbegun : preparing.begun caller = false) (begins : preparing.step? caller = some started)
    (calls : started.call? caller = some (exchange, point)) (begun : point.begun = true)
    (alone : ∀ other, started.copying? other = none) :
    started.Deciding caller exchange.needsBuffer {} := by
  have moved : preparing.move? (.step caller) = some started := begins
  have claims := claiming.move moved
  obtain ⟨slot, phase, silent, needs⟩ := claiming.orderly.opens expecting unbegun begins calls begun
  have nobody (other : TaskId) : ¬ (started.copying? other).isSome = true := by
    rw [alone other]
    exact Bool.false_ne_true
  have awaits : started.link.phase.awaits? = some exchange.needsBuffer := by
    rw [phase, awaits_initialPhase, needs]
  have present : started.link.phase.underWay = true := by
    rw [phase]
    exact Link.underWay_initialPhase exchange slot
  have shows_ : started.link.Shows exchange.needsBuffer {} :=
    .unended rfl rfl awaits present silent
  have past : point ≠ .gate := by
    rintro rfl
    cases begun
  have holds := (claims.orderly.admits_call calls).gate past
  constructor
  · exact claims
  · exact shows_.drains
  · intro other transaction at_ asks
    by_cases same : other = caller
    · subst same
      rw [calls] at asks
      cases asks
      exact .inr ⟨rfl, begun⟩
    · exact .inl (at_gate_of_holder (.inr holds) same (claims.orderly.admits_call asks))
  · exact fun _ _ _ _ => shows_
  · exact fun _ => rfl
  · exact fun other copies => absurd copies (nobody other)
  · exact fun left _ copies => absurd copies (nobody left)

/-- From the begin of a transaction on, with no copy of an earlier one under way, until
another call comes past the gate: what the caller reports, and whether it does so now,
is the verdict on what has been told and on its time. A copy belongs to the first event
that ends the transaction. Every other event changes the phase at most. -/
theorem first_terminal_event_decides {opened preparing started station :
      Station slots size capacity} {rule : Rule slots size capacity} {caller : TaskId}
    {exchange : Exchange} {point : CallerPoint} {earlier moves : List (Move capacity)}
    (fresh : opened.Fresh) (reached : run? rule earlier opened = some preparing)
    (unbegun : preparing.begun caller = false) (begins : preparing.step? caller = some started)
    (calls : started.call? caller = some (exchange, point)) (begun : point.begun = true)
    (alone : ∀ other, started.copying? other = none)
    (ran : run? entersNone moves started = some station) :
    (∀ deadline, station.call? caller = some (exchange, .waiting deadline) →
      (station.returns? caller).map (fun returned => Outcome.of? returned.2) =
        ((started.toldIn moves).verdict? exchange.needsBuffer
          (deadline.reached station.link.bus.clock)).map some) ∧
    (∀ other, (station.copying? other).isSome = true →
      (started.toldIn moves).terminal? exchange.needsBuffer = some .received ∧
        (started.toldIn moves).copied = none) ∧
    ∀ event, (started.toldIn moves).passes exchange.needsBuffer event = true →
      ∃ phase, station.link.feed event = .done { station.link with phase } (.ok ()) := by
  obtain ⟨claiming, expecting⟩ := claiming_and_expecting_of_run fresh reached
  have first := claiming.deciding expecting unbegun begins calls begun alone
  have deciding : station.Deciding caller exchange.needsBuffer (started.toldIn moves) :=
    run?_invariant tell (fun told station => station.Deciding caller exchange.needsBuffer told)
      (fun _ _ _ _ deciding allowed moved => deciding.move allowed moved) moves {} first ran
  refine ⟨?_, deciding.copies, ?_⟩
  · intro deadline waits
    have shows_ := deciding.present exchange (.waiting deadline) waits rfl
    rw [← shows_.reports caller exchange deadline, returns?, waits, Option.bind_some,
      Link.reports?]
    dsimp only
    cases station.link.callerStep caller exchange (.waiting deadline) <;> rfl
  · intro event passes
    exact ⟨_, deciding.drains.feed_passing passes⟩

/-- A reception is told that something was sent, which is nothing to it, then that there
is a frame, and while that is copied that there is none. -/
def hearsMuch : List (Move capacity) :=
  [.submit 2 (.feed .sent), .step 2, .step 1, .step 1, .step 1, .step 1, .step 1, .step 1,
    .submit 3 (.feed .received), .step 3, .submit 4 (.feed .receiveTimeout), .step 4, .step 3,
    .step 3, .step 3, .step 3, .disturb (.pass 10)]

theorem first_frame_decides_among_other_events :
    ∃ opened preparing started station : Station 2 127 0,
      opened.Fresh ∧
      run? dropsNothing [.submit 1 (.receive (.timeout 10) 0), .step 1] opened =
        some preparing ∧
      preparing.step? 1 = some started ∧ run? entersNone hearsMuch started = some station ∧
      (started.toldIn hearsMuch).events = [.sent, .received, .receiveTimeout] ∧
      (started.toldIn hearsMuch).copied = some false ∧ station.link.bus.clock = 10 ∧
      station.call? 1 = some (.receive (.timeout 10) 0, .waiting (.at 10)) ∧
      (station.returns? 1).map (fun returned => Outcome.of? returned.2) =
        some (some .receiveFault) ∧
      ∃ phase, station.link.feed .receiveError = .done { station.link with phase } (.ok ()) := by
  have evaluated : (do
      let opened : Station 2 127 0 ← open? Device.unused {} .transfer
      let preparing ← run? dropsNothing [.submit 1 (.receive (.timeout 10) 0), .step 1] opened
      let started ← preparing.step? 1
      let station ← run? entersNone hearsMuch started
      return (preparing.begun 1, started.call? 1,
        started.tasks.all fun entry => !entry.2.servesEvents, station.link.bus.clock,
        (started.toldIn hearsMuch).events, (started.toldIn hearsMuch).copied,
        station.call? 1)) =
      some (false, some (.receive (.timeout 10) 0, .startLock [] (.delay 10)), true, 10,
        [.sent, .received, .receiveTimeout], some false,
        some (.receive (.timeout 10) 0, .waiting (.at 10))) := by
    cbv
  obtain ⟨opened, isOpen, evaluated⟩ := Option.bind_eq_some_iff.mp evaluated
  obtain ⟨preparing, reached, evaluated⟩ := Option.bind_eq_some_iff.mp evaluated
  obtain ⟨started, begins, evaluated⟩ := Option.bind_eq_some_iff.mp evaluated
  obtain ⟨station, ran, evaluated⟩ := Option.bind_eq_some_iff.mp evaluated
  have seen := Option.some.inj evaluated
  simp only [Prod.mk.injEq] at seen
  obtain ⟨unbegun, calls, unserved, clock, events, copied, waits⟩ := seen
  have alone (other : TaskId) : started.copying? other = none := by
    refine copying?_of_unserved ?_ other
    intro entry member
    simpa using List.all_eq_true.mp unserved entry member
  have fresh := fresh_of_open? isOpen
  obtain ⟨reports, _, harmless⟩ :=
    first_terminal_event_decides fresh reached unbegun begins calls rfl alone ran
  have terminal : (started.toldIn hearsMuch).terminal? true = some .received := by
    rw [Told.terminal?, events]
    rfl
  refine ⟨opened, preparing, started, station, fresh, reached, begins, ran, events, copied, clock,
    waits, ?_, harmless .receiveError ?_⟩
  · rw [reports (.at 10) waits]
    have decided : (started.toldIn hearsMuch).decides? true = some .receiveFault := by
      rw [Told.decides?, terminal, copied]
      rfl
    have verdict : (started.toldIn hearsMuch).verdict? true
        ((Deadline.at 10).reached station.link.bus.clock) = some .receiveFault := by
      rw [Told.verdict?, decided, Option.some_or]
    exact congrArg (Option.map some) verdict
  · have late : (started.toldIn hearsMuch).passes true .receiveError = true := by
      rw [Told.passes, terminal]
      rfl
    exact late

end Station

end UwbRadio
