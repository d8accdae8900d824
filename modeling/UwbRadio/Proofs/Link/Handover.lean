import UwbRadio.Proofs.Link.Decision

/-!
Handing frames over. A copy is accepted if it ends with a frame for the link while a
transaction is being delivered; then the frame goes the way of the handler, and nothing
else ever goes there. How many frames a transaction has accepted can be seen from its
phase, and once its caller has left it accepts no more.
-/

namespace UwbRadio

namespace Phase

/-- How many frames a transaction has accepted whose caller is still there. -/
def Counts (answered : Bool) (accepted : Nat) : Phase → Prop
  | .sending slot => slot.isSome = answered ∧ accepted = 0
  | .waitingResponse _ | .delivering => answered = true ∧ accepted = 0
  | .finished .completed => accepted = answered.toNat
  | .finished _ => accepted = 0
  | .idle | .abandoned _ => False

theorem counts_onEvent {answered : Bool} {accepted : Nat} {phase : Phase}
    (counts : phase.Counts answered accepted) (event : Event) :
    (phase.onEvent event).1.Counts answered accepted := by
  cases phase with
  | idle => cases counts
  | abandoned slot => cases counts
  | sending slot =>
      obtain ⟨rfl, rfl⟩ := counts
      cases slot <;> cases event <;> first | rfl | exact ⟨rfl, rfl⟩
  | waitingResponse slot =>
      obtain ⟨rfl, rfl⟩ := counts
      cases event <;> first | rfl | exact ⟨rfl, rfl⟩
  | delivering => cases event <;> exact counts
  | finished outcome => cases event <;> exact counts

theorem counts_le_one {answered : Bool} {accepted : Nat} {phase : Phase}
    (counts : phase.Counts answered accepted) : accepted ≤ answered.toNat := by
  cases phase with
  | idle => cases counts
  | abandoned slot => cases counts
  | sending slot => exact counts.2 ▸ Nat.zero_le _
  | waitingResponse slot => exact counts.2 ▸ Nat.zero_le _
  | delivering => exact counts.2 ▸ Nat.zero_le _
  | finished outcome =>
      cases outcome with
      | completed => exact Nat.le_of_eq counts
      | _ => exact counts ▸ Nat.zero_le _

theorem counts_initialPhase (exchange : Exchange) {slot : Option Slot} {answered : Bool}
    (holds : slot.isSome = answered) : (exchange.initialPhase slot).Counts answered 0 := by
  subst holds
  cases exchange <;> cases slot <;> exact ⟨rfl, rfl⟩

end Phase

def Outcome.accepts (answered : Bool) : Outcome → Nat
  | .completed => answered.toNat
  | _ => 0

def InterruptPoint.hands : InterruptPoint → Bool
  | .handover _ => true
  | _ => false

theorem InterruptPoint.hands_of_copies {point : InterruptPoint} {slot : Slot}
    (copies : point.copies? = some slot) : point.hands = false := by
  cases point with
  | handover => cases copies
  | _ => rfl

namespace Link

variable {slots size : Nat} {link after : Link slots size} {answered : Bool} {accepted : Nat}
  {id : TaskId} {point : InterruptPoint} {turn : InterruptTurn slots size}

/-- With its next step the copy ends, has a frame for the link, and a transaction waits
for it. -/
def accepts (link : Link slots size) (point : InterruptPoint) : Bool :=
  link.phase == .delivering && link.finds? point == some true

theorem accepts_iff : link.accepts point = true ↔
    link.phase = .delivering ∧ link.finds? point = some true := by
  rw [accepts, Bool.and_eq_true, beq_iff_eq, beq_iff_eq]

theorem accepts_of_over (gone : link.phase.underWay = false) : link.accepts point = false := by
  apply Bool.eq_false_iff.mpr
  intro accepts
  rw [(accepts_iff.mp accepts).1] at gone
  cases gone

theorem FeedingAll.keeps (Holds : Phase → Prop)
    (kept : ∀ event phase, Holds phase → Holds (phase.onEvent event).1) {events : List Event}
    (fed : FeedingAll link events turn) (holds : Holds link.phase) :
    turn.Leaves fun after => Holds after.phase := by
  have feeds {link : Link slots size} {event : Event} {turn : InterruptTurn slots size}
      (fed : Feeding link event turn) (holds : Holds link.phase) :
      turn.Leaves fun after => Holds after.phase := by
    rw [fed.turn_eq]
    refine (link.feed_phase event).mono fun after phase => ?_
    rw [phase]
    exact kept event link.phase holds
  induction fed with
  | nil => exact holds
  | last fed => exact feeds fed holds
  | cons fed later ih => exact ih (feeds fed holds)

theorem InterruptTurns.keeps (Holds : Phase → Prop)
    (kept : ∀ event phase, Holds phase → Holds (phase.onEvent event).1)
    (turns : InterruptTurns link id point turn) (idle : point.copies? = none)
    (holds : Holds link.phase) : turn.Leaves fun after => Holds after.phase := by
  rcases turns.feeding idle with rfl | ⟨middle, same, fed⟩ | ⟨_, still, _⟩
  · trivial
  · rw [← same.phase] at holds
    exact fed.keeps Holds kept holds
  · refine still.mono fun after same => ?_
    rw [same.phase]
    exact holds

theorem InterruptTurns.counts (turns : InterruptTurns link id point turn)
    (own : link.ClaimedAt id point) (counts : link.phase.Counts answered accepted) :
    turn.Leaves fun after =>
      after.phase.Counts answered (accepted + (link.accepts point).toNat) := by
  have idle (finds : link.finds? point = none) :
      accepted + (link.accepts point).toNat = accepted := by
    rw [accepts, finds]
    simp
  cases copies : point.copies? with
  | none =>
      rw [idle (link.finds_of_no_copy copies)]
      exact InterruptTurns.keeps (Phase.Counts answered accepted)
        (fun event _ counts => Phase.counts_onEvent counts event) turns copies counts
  | some slot =>
      rcases turns.finds copies own with rfl | ⟨next, later, rfl, _, agrees, finds⟩ |
        ⟨middle, copied, good, agrees, ended, finds, same⟩
      · trivial
      · rw [idle finds]
        rw [← agrees.phase] at counts
        exact counts
      -- The copy need not be this transaction's: the first to end during the delivery counts,
      -- and every later one finds the phase finished.
      · by_cases delivering : link.phase = .delivering
        · refine (ended.of_delivering (agrees.phase.trans delivering)).mono fun after finished => ?_
          rw [delivering] at counts
          obtain ⟨rfl, rfl⟩ := counts
          rw [finished.1, copyOutcome_eq same, accepts, delivering, finds]
          cases good <;> rfl
        · have refused : link.accepts point = false := by
            apply Bool.eq_false_iff.mpr
            intro accepts
            exact delivering (accepts_iff.mp accepts).1
          rw [← agrees.phase] at counts delivering
          have notLeft : middle.phase ≠ .abandoned none := by
            intro abandoned
            rw [abandoned] at counts
            cases counts
          rw [ended.stale_eq delivering notLeft, refused]
          exact counts

theorem InterruptTurns.stays_over (turns : InterruptTurns link id point turn)
    (gone : link.phase.underWay = false) :
    turn.Leaves fun after => after.phase.underWay = false := by
  cases copies : point.copies? with
  | none =>
      exact InterruptTurns.keeps (fun phase => phase.underWay = false)
        (fun event _ gone => onEvent_over event gone) turns copies gone
  | some slot =>
      rcases turns.copying copies with rfl | ⟨next, later, rfl, _, agrees⟩ |
        ⟨middle, copied, agrees, ended⟩
      · trivial
      · rw [← agrees.phase] at gone
        exact gone
      · rw [← agrees.phase] at gone
        by_cases abandoned : middle.phase = .abandoned none
        · refine (ended.of_abandoned abandoned).mono fun after idle => ?_
          rw [idle]
          rfl
        · have notDelivering : middle.phase ≠ .delivering := by
            intro delivering
            rw [delivering] at gone
            cases gone
          rw [ended.stale_eq notDelivering abandoned]
          exact gone

section caller

variable {exchange : Exchange} {at_ : CallerPoint} {turn : CallerTurn slots size}

theorem CallerTurns.same_phase {later : CallerPoint}
    (turns : CallerTurns link id exchange at_ (.next after later)) (begun : at_.begun = true) :
    after.phase = link.phase := by
  cases turns with
  | silence => cases begun
  | enter => cases begun
  | silenced => cases begun
  | begin => cases begun
  | _ => rfl

theorem CallerTurns.over_of_begun {result : Except (Error BusFault) Status}
    (turns : CallerTurns link id exchange at_ (.done after result)) (begun : at_.begun = true) :
    after.phase.underWay = false := by
  cases turns with
  | enter => cases begun
  | silenceFailed => cases begun
  | silenced => cases begun
  | starved => cases begun
  | startFailed => exact failed_over _ _ _
  | checkFailed => exact failed_over _ _ _
  | cancelFailed => exact failed_over _ _ _
  | cancelled => exact failed_over _ _ _
  | finished => exact congrArg Phase.underWay (conclude_phase _ _ _)
  | abandoned =>
      have same := conclude_phase link.abandon.2 link.abandon.1 exchange.counted
      rcases abandon_phase link with idle | abandoned
      · exact congrArg Phase.underWay (same.trans idle)
      · exact congrArg Phase.underWay (same.trans abandoned)

/-- A caller that was in a transaction returns what fits the frames that it accepted. -/
theorem CallerTurns.concludes {result : Except (Error BusFault) Status}
    (turns : CallerTurns link id exchange at_ (.done after result)) (begun : at_.begun = true)
    (counts : link.phase.Counts answered accepted) :
    after.phase.underWay = false ∧
      ∀ outcome, Outcome.of? result = some outcome → accepted = outcome.accepts answered := by
  refine ⟨turns.over_of_begun begun, ?_⟩
  have finishes {ended : Outcome} (finished : link.phase = .finished ended) :
      accepted = ended.accepts answered := by
    rw [finished] at counts
    cases ended <;> exact counts
  cases turns with
  | enter => cases begun
  | silenceFailed => cases begun
  | silenced => cases begun
  | starved => cases begun
  | startFailed => exact nofun
  | checkFailed => exact nofun
  | cancelFailed => exact nofun
  | cancelled => exact nofun
  | finished woken ended =>
      intro outcome told
      rw [of?_conclude] at told
      cases told
      exact finishes ended
  | abandoned =>
      intro outcome told
      rw [of?_conclude] at told
      cases told
      unfold abandon
      split
      · rename_i ended finished
        exact finishes finished
      · rename_i unended
        cases phase : link.phase with
        | idle => rw [phase] at counts; cases counts
        | abandoned => rw [phase] at counts; cases counts
        | sending => rw [phase] at counts; exact counts.2
        | waitingResponse => rw [phase] at counts; exact counts.2
        | delivering => rw [phase] at counts; exact counts.2
        | finished ended => exact absurd phase (unended ended)

theorem CallerTurns.stays_over (turns : CallerTurns link id exchange at_ turn)
    (before : at_.begun = false)
    (unbegun : ∀ after later, turn = .next after later → later.begun = false)
    (gone : link.phase.underWay = false) :
    turn.Leaves fun after => after.phase.underWay = false := by
  have entered : (link.entered id).phase.underWay = false := by
    rw [entered_phase]
    rfl
  have prepares {middle : Link slots size} (prepared : Preparation middle exchange turn)
      (gone : middle.phase.underWay = false) :
      turn.Leaves fun after => after.phase.underWay = false := by
    cases prepared with
    | receive => exact gone
    | refused => exact gone
    | reserve => exact gone
    | begin => cases unbegun _ _ rfl
  cases turns with
  | wait => trivial
  | silence => exact entered
  | enter free settled prepared => exact prepares prepared entered
  | silenced performed prepared => exact prepares prepared gone
  | silenceLock => exact gone
  | silenceFailed => exact gone
  | silencing => exact gone
  | begin => cases unbegun _ _ rfl
  | starved => exact gone
  | reserving => exact gone
  | startLock => cases before
  | startFailed => cases before
  | startedSend => cases before
  | startedReceive => cases before
  | starting => cases before
  | checkFailed => cases before
  | started => cases before
  | late => cases before
  | cancelFailed => cases before
  | cancelled => cases before
  | cancelling => cases before
  | finished => cases before
  | woken => cases before
  | abandoned => cases before
  | waiting => cases before

end caller

/-! ### Where the frames go -/

/-- No frame goes to the handler or comes from it. -/
structure SparesHandler (link after : Link slots size) : Prop where
  handler : after.handler = link.handler
  delivered : after.delivered = link.delivered
  queue : after.queue = link.queue

theorem SparesHandler.trans {middle : Link slots size} (first : link.SparesHandler middle)
    (second : middle.SparesHandler after) : link.SparesHandler after :=
  ⟨second.handler.trans first.handler, second.delivered.trans first.delivered,
    second.queue.trans first.queue⟩

theorem sparesHandler_releaseSlot? (link : Link slots size) (slot : Option Slot) :
    link.SparesHandler (link.releaseSlot? slot) := by
  cases slot <;> exact ⟨rfl, rfl, rfl⟩

theorem sparesHandler_entered (link : Link slots size) (id : TaskId) :
    link.SparesHandler (link.entered id) :=
  have rephased : link.SparesHandler { link with gate := Lock.heldBy id, phase := .idle } :=
    ⟨rfl, rfl, rfl⟩
  rephased.trans (sparesHandler_releaseSlot? _ _)

theorem sparesHandler_failed (link : Link slots size) (error : Error BusFault) (counted : Bool) :
    link.SparesHandler (link.failed error counted) := by
  unfold failed abort
  cases error with
  | transmitFault =>
      have released := sparesHandler_releaseSlot? { link.releaseRegisters with
        sequence := if counted then link.sequence - 1 else link.sequence
        last := .faulted, phase := .idle
        status := link.status.insert Status.startError } link.phase.slot?
      exact ⟨released.handler, released.delivered, released.queue⟩
  | _ => exact ⟨rfl, rfl, rfl⟩

theorem sparesHandler_abandon (link : Link slots size) : link.SparesHandler link.abandon.2 := by
  unfold abandon
  split <;> exact ⟨rfl, rfl, rfl⟩

theorem sparesHandler_conclude (link : Link slots size) (outcome : Outcome) (counted : Bool) :
    link.SparesHandler (link.conclude outcome counted).2 := by
  cases outcome <;> exact ⟨rfl, rfl, rfl⟩

theorem CallerTurns.sparesHandler {exchange : Exchange} {at_ : CallerPoint}
    {turn : CallerTurn slots size} (turns : CallerTurns link id exchange at_ turn) :
    turn.Leaves link.SparesHandler := by
  have prepares {middle : Link slots size} (prepared : Preparation middle exchange turn)
      (spared : link.SparesHandler middle) : turn.Leaves link.SparesHandler := by
    cases prepared <;> exact spared.trans ⟨rfl, rfl, rfl⟩
  have failed (bus : Bus) (error : Error BusFault) :
      link.SparesHandler ({ link with bus }.failed error exchange.counted) := by
    have spared := sparesHandler_failed { link with bus } error exchange.counted
    exact ⟨spared.handler, spared.delivered, spared.queue⟩
  cases turns with
  | wait => trivial
  | silence => exact sparesHandler_entered link id
  | enter free settled prepared => exact prepares prepared (sparesHandler_entered link id)
  | silenced performed prepared => exact prepares prepared ⟨rfl, rfl, rfl⟩
  | startFailed => exact failed _ _
  | checkFailed => exact failed _ _
  | cancelFailed => exact failed _ _
  | cancelled => exact failed _ _
  | @finished deadline outcome =>
      have spared := sparesHandler_conclude { link with completion := false, phase := .idle }
        outcome exchange.counted
      exact ⟨spared.handler, spared.delivered, spared.queue⟩
  | abandoned =>
      have left := sparesHandler_abandon link
      have through := left.trans
        (sparesHandler_conclude link.abandon.2 link.abandon.1 exchange.counted)
      exact ⟨through.handler, through.delivered, through.queue⟩
  | _ => exact ⟨rfl, rfl, rfl⟩

theorem FeedingAll.sparesHandler {events : List Event} (fed : FeedingAll link events turn) :
    turn.Leaves link.SparesHandler := by
  have feeds {link : Link slots size} {event : Event} {turn : InterruptTurn slots size}
      (fed : Feeding link event turn) : turn.Leaves link.SparesHandler := by
    cases fed with
    | @drained phase flags slot =>
        have observed : link.SparesHandler (link.observed phase flags) := ⟨rfl, rfl, rfl⟩
        exact observed.trans (sparesHandler_releaseSlot? _ slot)
    | _ => exact ⟨rfl, rfl, rfl⟩
  induction fed with
  | nil => exact ⟨rfl, rfl, rfl⟩
  | last fed => exact feeds fed
  | cons fed later ih =>
      have before : SparesHandler _ _ := feeds fed
      exact ih.mono fun after second => before.trans second

def handsOn : InterruptTurn slots size → Bool
  | .next _ later => later.hands
  | .wait | .done _ _ => false

theorem FeedingAll.hands_nothing {events : List Event} (fed : FeedingAll link events turn) :
    handsOn turn = false := by
  induction fed with
  | nil => rfl
  | last fed => cases fed <;> rfl
  | cons fed later ih => exact ih

theorem sparesHandler_finishCopy (link : Link slots size) (outcome : Outcome) :
    link.SparesHandler (link.finishCopy outcome).2 := by
  unfold finishCopy
  split <;> exact ⟨rfl, rfl, rfl⟩

theorem delivering_of_finishCopy {outcome : Outcome} {next : Link slots size} {current : Bool}
    (finished : link.finishCopy outcome = (current, next)) :
    current = true ↔ link.phase = .delivering := by
  unfold finishCopy at finished
  split at finished
  · rename_i delivering
    cases finished
    exact ⟨fun _ => delivering, fun _ => rfl⟩
  · rename_i abandoned
    cases finished
    rw [abandoned]
    exact ⟨nofun, nofun⟩
  · rename_i other _
    cases finished
    exact ⟨nofun, fun delivering => absurd delivering other⟩

/-- What a step of the event side does with frames: it delivers what it has been handed,
and what it accepts goes the way of the handler. -/
structure HandsOver (link : Link slots size) (point : InterruptPoint)
    (turn : InterruptTurn slots size) (after : Link slots size) : Prop where
  handler : after.handler = link.handler
  delivered : after.delivered.length + (handsOn turn).toNat =
    link.delivered.length + point.hands.toNat +
      (link.accepts point && link.handler == .transfer).toNat
  queue : if link.accepts point && link.handler == .ranging
    then ∃ slot, after.queue = (link.queue.push? ⟨slot⟩).getD link.queue
    else after.queue = link.queue

theorem SparesHandler.handsOver (spared : link.SparesHandler after) (silent : point.hands = false)
    (goesOn : handsOn turn = false)
    (kept : link.accepts point = true → link.handler = .ping) :
    link.HandsOver point turn after := by
  have elsewhere (handler : Handler) (other : handler ≠ .ping) :
      (link.accepts point && link.handler == handler) = false := by
    cases accepted : link.accepts point with
    | false => rfl
    | true =>
        rw [kept accepted]
        exact beq_eq_false_iff_ne.mpr other.symm
  refine ⟨spared.handler, ?_, ?_⟩
  · rw [spared.delivered, silent, goesOn, elsewhere .transfer nofun]
    rfl
  · rw [elsewhere .ranging nofun]
    exact spared.queue

theorem enqueue_offers (link : Link slots size) (slot : Slot) :
    (link.enqueue slot).handler = link.handler ∧
      (link.enqueue slot).delivered = link.delivered ∧
      (link.enqueue slot).queue = (link.queue.push? ⟨slot⟩).getD link.queue := by
  unfold enqueue
  split
  · rename_i queue pushed
    rw [pushed]
    exact ⟨rfl, rfl, rfl⟩
  · rename_i refused
    rw [refused]
    exact ⟨rfl, rfl, rfl⟩

theorem CopyEnding.handsOver {middle : Link slots size} {slot : Slot} {good : Bool}
    {copied : Except (Error BusFault) Bool} (ended : CopyEnding middle slot copied turn)
    (agrees : Agrees link middle) (copies : point.copies? = some slot)
    (finds : link.finds? point = some good) (same : copied = .ok true ↔ good = true) :
    turn.Leaves (link.HandsOver point turn) := by
  have before : link.SparesHandler middle := ⟨agrees.handler, agrees.delivered, agrees.queue⟩
  have spared := before.trans (sparesHandler_finishCopy middle (copyOutcome copied))
  have silent := InterruptPoint.hands_of_copies copies
  have accepts_iff : link.accepts point = true ↔
      middle.phase = .delivering ∧ copied = .ok true := by
    rw [Link.accepts_iff, agrees.phase, finds, same, Option.some.injEq]
  cases ended with
  | @stale next other =>
      rw [other] at spared
      have released : link.SparesHandler (next.releaseSlot slot) := spared.trans ⟨rfl, rfl, rfl⟩
      change link.HandsOver point (.done _ _) _
      refine released.handsOver silent rfl fun accepts => ?_
      have current := (delivering_of_finishCopy other).mpr (accepts_iff.mp accepts).1
      cases current
  | @handover next current found transfers =>
      rw [current] at spared
      have accepts := accepts_iff.mpr ⟨(delivering_of_finishCopy current).mp rfl, found⟩
      have transfer : link.handler = .transfer := spared.handler.symm.trans transfers
      constructor
      · exact spared.handler
      · have kept : next.signal.delivered.length = link.delivered.length :=
          congrArg List.length spared.delivered
        rw [kept, silent, accepts, transfer]
        rfl
      · rw [accepts, transfer]
        exact spared.queue
  | @queued next current found ranges =>
      rw [current] at spared
      have accepts := accepts_iff.mpr ⟨(delivering_of_finishCopy current).mp rfl, found⟩
      have ranging : link.handler = .ranging := spared.handler.symm.trans ranges
      have queue : next.signal.queue = link.queue := spared.queue
      have delivered : next.signal.delivered = link.delivered := spared.delivered
      obtain ⟨sameHandler, sameDelivered, offered⟩ := next.signal.enqueue_offers slot
      constructor
      · exact sameHandler.trans spared.handler
      · rw [sameDelivered, delivered, silent, ranging, Bool.and_comm]
        rfl
      · rw [accepts, ranging]
        refine ⟨slot, ?_⟩
        rw [offered, queue]
  | @dropped next current unwanted =>
      rw [current] at spared
      have released : link.SparesHandler (next.signal.releaseSlot slot) :=
        spared.trans ⟨rfl, rfl, rfl⟩
      change link.HandsOver point (.done _ _) _
      refine released.handsOver silent rfl fun accepts => ?_
      rcases unwanted with failed | pings
      · exact absurd (accepts_iff.mp accepts).2 failed
      · exact spared.handler.symm.trans pings

theorem InterruptTurns.handsOver (turns : InterruptTurns link id point turn)
    (own : link.ClaimedAt id point) : turn.Leaves (link.HandsOver point turn) := by
  cases copies : point.copies? with
  | some slot =>
      rcases turns.finds copies own with rfl | ⟨next, later, rfl, goesOn, agrees, finds⟩ |
        ⟨middle, copied, good, agrees, ended, finds, same⟩
      · trivial
      · have spared : link.SparesHandler next := ⟨agrees.handler, agrees.delivered, agrees.queue⟩
        refine spared.handsOver (InterruptPoint.hands_of_copies copies)
          (InterruptPoint.hands_of_copies goesOn) fun accepts => ?_
        rw [Link.accepts, finds] at accepts
        simp at accepts
      · exact ended.handsOver agrees copies finds same
  | none =>
      have refused : link.accepts point = false := by
        rw [Link.accepts, link.finds_of_no_copy copies]
        simp
      have spares (silent : point.hands = false) (goesOn : handsOn turn = false)
          (next : Link slots size) (spared : link.SparesHandler next) :
          link.HandsOver point turn next := by
        refine spared.handsOver silent goesOn fun accepts => ?_
        rw [refused] at accepts
        cases accepts
      have feeds {middle : Link slots size} {events : List Event}
          (fed : FeedingAll middle events turn) (silent : point.hands = false)
          (same : link.SparesHandler middle) : turn.Leaves (link.HandsOver point turn) :=
        fed.sparesHandler.mono fun after spared =>
          spares silent fed.hands_nothing after (same.trans spared)
      cases turns with
      | wait => trivial
      | event fed => exact feeds (.last fed) rfl ⟨rfl, rfl, rfl⟩
      | cleared performed fed => exact feeds fed rfl ⟨rfl, rfl, rfl⟩
      | handover free =>
          refine ⟨rfl, ?_, ?_⟩
          · rw [refused]
            rfl
          · rw [refused]
            rfl
      | copyLock => cases copies
      | lengthFailed => cases copies
      | length => cases copies
      | tooLong => cases copies
      | bufferLock => cases copies
      | frameFailed => cases copies
      | unbuffered => cases copies
      | refused => cases copies
      | accepted => cases copies
      | _ => exact spares rfl rfl _ ⟨rfl, rfl, rfl⟩

end Link

end UwbRadio
