import UwbRadio.Proofs.Link.Gate

/-!
The copy of a received frame. Until it ends it changes nothing that a caller looks
at. What its end changes depends on the phase alone: with `delivering` the
transaction has finished, whichever it is; with nothing left behind but an
abandoned transaction without a buffer that one is over; else only the buffer of the
copy is given back.
-/

namespace UwbRadio

namespace InterruptPoint

def copies? : InterruptPoint → Option Slot
  | .copyLock slot | .readLength slot | .bufferLock slot _ | .readFrame slot _ => some slot
  | .event _ | .statusLock | .readStatus | .clearStatus _ | .handover _ => none

theorem slot?_of_copies? {point : InterruptPoint} {slot : Slot}
    (copies : point.copies? = some slot) : point.slot? = some slot := by
  cases point with
  | handover => cases copies
  | _ => exact copies

end InterruptPoint

namespace Link

variable {slots size : Nat} {link after : Link slots size}

/-- The links agree on all that callers and the application look at; they may differ
in the bus, the locks and the bytes of the buffers. -/
structure Agrees (link after : Link slots size) : Prop where
  phase : after.phase = link.phase
  status : after.status = link.status
  completion : after.completion = link.completion
  last : after.last = link.last
  sequence : after.sequence = link.sequence
  handler : after.handler = link.handler
  queue : after.queue = link.queue
  delivered : after.delivered = link.delivered
  owned : after.pool.owned = link.pool.owned

theorem Agrees.trans {middle : Link slots size} (first : Agrees link middle)
    (second : Agrees middle after) : Agrees link after where
  phase := second.phase.trans first.phase
  status := second.status.trans first.status
  completion := second.completion.trans first.completion
  last := second.last.trans first.last
  sequence := second.sequence.trans first.sequence
  handler := second.handler.trans first.handler
  queue := second.queue.trans first.queue
  delivered := second.delivered.trans first.delivered
  owned := second.owned.trans first.owned

theorem InterruptTurns.copying {id : TaskId} {point : InterruptPoint} {slot : Slot}
    {turn : InterruptTurn slots size} (turns : InterruptTurns link id point turn)
    (copies : point.copies? = some slot) :
    turn = .wait ∨
      (∃ after later, turn = .next after later ∧ later.copies? = some slot ∧
        Agrees link after) ∨
      ∃ middle copied, Agrees link middle ∧ CopyEnding middle slot copied turn := by
  cases turns with
  | wait => exact .inl rfl
  | event => cases copies
  | statusLock => cases copies
  | readFailed => cases copies
  | nothingPending => cases copies
  | pending => cases copies
  | clearFailed => cases copies
  | cleared => cases copies
  | handover => cases copies
  | copyLock =>
      cases copies
      exact .inr (.inl ⟨_, _, rfl, rfl, by constructor <;> rfl⟩)
  | length =>
      cases copies
      exact .inr (.inl ⟨_, _, rfl, rfl, by constructor <;> rfl⟩)
  | bufferLock =>
      cases copies
      exact .inr (.inl ⟨_, _, rfl, rfl, by constructor <;> rfl⟩)
  | lengthFailed performed ended =>
      cases copies
      exact .inr (.inr ⟨_, _, by constructor <;> rfl, ended⟩)
  | tooLong free refused ended =>
      cases copies
      exact .inr (.inr ⟨_, _, by constructor <;> rfl, ended⟩)
  | frameFailed performed ended =>
      cases copies
      exact .inr (.inr ⟨_, _, by constructor <;> rfl, ended⟩)
  | unbuffered performed missing ended =>
      cases copies
      exact .inr (.inr ⟨_, _, by constructor <;> rfl, ended⟩)
  | refused performed found foreign ended =>
      cases copies
      exact .inr (.inr ⟨_, _, by constructor <;> rfl, ended⟩)
  | accepted performed found decoded ended =>
      cases copies
      exact .inr (.inr ⟨_, _, by constructor <;> rfl, ended⟩)

def feeds (link : Link slots size) : InterruptPoint → List Event
  | .event event => [event]
  | .clearStatus pending =>
      match ((Register.systemStatus.write pending).perform link.bus).1 with
      | .ok _ => eventsTold pending
      | .error _ => []
  | _ => []

/-- The links agree on the transaction and on what it shows. -/
structure SameTransaction (link after : Link slots size) : Prop where
  phase : after.phase = link.phase
  status : after.status = link.status
  completion : after.completion = link.completion

/-- A step that belongs to no copy feeds in events, or leaves the transaction alone. -/
theorem InterruptTurns.feeding {id : TaskId} {point : InterruptPoint}
    {turn : InterruptTurn slots size} (turns : InterruptTurns link id point turn)
    (idle : point.copies? = none) :
    turn = .wait ∨
      (∃ middle, link.SameTransaction middle ∧ FeedingAll middle (link.feeds point) turn) ∨
      (link.feeds point = [] ∧ turn.Leaves link.SameTransaction ∧
        ∀ after later, turn = .next after later → later.copies? = none) := by
  have ends (last : Link slots size) (result : Except (Error BusFault) Unit)
      (after : Link slots size) (later : InterruptPoint)
      (goes : (Turn.done last result : InterruptTurn slots size) = .next after later) :
      later.copies? = none := by
    cases goes
  cases turns with
  | wait => exact .inl rfl
  | event fed => exact .inr (.inl ⟨link, ⟨rfl, rfl, rfl⟩, .last fed⟩)
  | @cleared pending bus turn performed fed =>
      refine .inr (.inl ⟨{ link with bus }.releaseRegisters, ⟨rfl, rfl, rfl⟩, ?_⟩)
      rw [feeds, performed]
      exact fed
  | clearFailed performed =>
      exact .inr (.inr ⟨by rw [feeds, performed], ⟨rfl, rfl, rfl⟩, ends _ _⟩)
  | statusLock => exact .inr (.inr ⟨rfl, ⟨rfl, rfl, rfl⟩, by rintro after later ⟨⟩; rfl⟩)
  | pending => exact .inr (.inr ⟨rfl, ⟨rfl, rfl, rfl⟩, by rintro after later ⟨⟩; rfl⟩)
  | readFailed => exact .inr (.inr ⟨rfl, ⟨rfl, rfl, rfl⟩, ends _ _⟩)
  | nothingPending => exact .inr (.inr ⟨rfl, ⟨rfl, rfl, rfl⟩, ends _ _⟩)
  | handover => exact .inr (.inr ⟨rfl, ⟨rfl, rfl, rfl⟩, ends _ _⟩)
  | copyLock => cases idle
  | lengthFailed => cases idle
  | length => cases idle
  | tooLong => cases idle
  | bufferLock => cases idle
  | frameFailed => cases idle
  | unbuffered => cases idle
  | refused => cases idle
  | accepted => cases idle

variable {slot : Slot} {copied : Except (Error BusFault) Bool} {turn : InterruptTurn slots size}

theorem CopyEnding.stale_eq (ended : CopyEnding link slot copied turn)
    (notDelivering : link.phase ≠ .delivering) (notLeft : link.phase ≠ .abandoned none) :
    turn = .done (link.releaseSlot slot) (copied.map fun _ => ()) := by
  have other : link.finishCopy (copyOutcome copied) = (false, link) := by
    unfold finishCopy
    split
    · rename_i delivering
      exact absurd delivering notDelivering
    · rename_i left
      exact absurd left notLeft
    · rfl
  cases ended with
  | stale found =>
      rw [other] at found
      cases found
      rfl
  | handover current => rw [other] at current; cases current
  | queued current => rw [other] at current; cases current
  | dropped current => rw [other] at current; cases current

/-- A copy that ends while a frame is being delivered finishes the transaction with
its own outcome and wakes the caller, whoever that is. -/
theorem CopyEnding.of_delivering (ended : CopyEnding link slot copied turn)
    (delivering : link.phase = .delivering) :
    turn.Leaves fun after =>
      after.phase = .finished (copyOutcome copied) ∧ after.completion = true := by
  have current : ∃ next, link.finishCopy (copyOutcome copied) = (true, next) ∧
      next.phase = .finished (copyOutcome copied) := by
    unfold finishCopy
    rw [delivering]
    exact ⟨_, rfl, rfl⟩
  obtain ⟨next, finished, phase⟩ := current
  cases ended with
  | stale other => rw [finished] at other; cases other
  | handover found =>
      rw [finished] at found
      cases found
      exact ⟨phase, rfl⟩
  | queued found =>
      rw [finished] at found
      cases found
      unfold enqueue
      split
      · exact ⟨phase, rfl⟩
      · exact ⟨phase, rfl⟩
  | dropped found =>
      rw [finished] at found
      cases found
      exact ⟨phase, rfl⟩

theorem CopyEnding.of_abandoned (ended : CopyEnding link slot copied turn)
    (abandoned : link.phase = .abandoned none) :
    turn.Leaves fun after => after.phase = .idle := by
  have other : link.finishCopy (copyOutcome copied) = (false, { link with phase := .idle }) := by
    unfold finishCopy
    rw [abandoned]
  cases ended with
  | stale found => rw [other] at found; cases found; rfl
  | handover current => rw [other] at current; cases current
  | queued current => rw [other] at current; cases current
  | dropped current => rw [other] at current; cases current

theorem abandon_phase (link : Link slots size) :
    link.abandon.2.phase = .idle ∨ link.abandon.2.phase = .abandoned link.phase.slot? := by
  unfold abandon
  split
  · exact .inl rfl
  · exact .inr rfl

theorem failed_phase (link : Link slots size) (error : Error BusFault) (counted : Bool) :
    (link.failed error counted).phase = .idle ∨
      (link.failed error counted).phase = .abandoned link.phase.slot? := by
  unfold failed abort
  cases error with
  | transmitFault => exact .inl (releaseSlot?_phase _ _)
  | _ => exact .inr rfl

theorem failed_over (link : Link slots size) (error : Error BusFault) (counted : Bool) :
    (link.failed error counted).phase.underWay = false := by
  rcases failed_phase link error counted with idle | abandoned
  · rw [idle]
    rfl
  · rw [abandoned]
    rfl

theorem conclude_phase (link : Link slots size) (outcome : Outcome) (counted : Bool) :
    (link.conclude outcome counted).2.phase = link.phase := by
  cases outcome <;> rfl

theorem Preparation.not_delivering {exchange : Exchange} {turn : CallerTurn slots size}
    (prepared : Preparation link exchange turn) :
    turn.Leaves fun after => after.phase = .delivering → link.phase = .delivering := by
  cases prepared with
  | receive => exact id
  | refused => exact id
  | reserve => exact id
  | begin => intro delivering; cases delivering

theorem CallerTurns.not_delivering {exchange : Exchange} {id : TaskId} {point : CallerPoint}
    {turn : CallerTurn slots size} (turns : CallerTurns link id exchange point turn) :
    turn.Leaves fun after => after.phase = .delivering → link.phase = .delivering := by
  have entered : (link.entered id).phase ≠ .delivering := by
    rw [entered_phase]
    intro same
    cases same
  have fails (bus : Bus) (error : Error BusFault) :
      ({ link with bus }.failed error exchange.counted).phase ≠ .delivering := by
    intro same
    rcases failed_phase { link with bus } error exchange.counted with idle | abandoned
    · rw [idle] at same; cases same
    · rw [abandoned] at same; cases same
  cases turns with
  | wait => trivial
  | silence => exact fun delivering => absurd delivering entered
  | enter free settled prepared =>
      exact prepared.not_delivering.mono fun after before delivering =>
        absurd (before delivering) entered
  | silenced performed prepared => exact prepared.not_delivering
  | begin =>
      intro delivering
      cases exchange <;> cases delivering
  | startFailed => exact fun delivering => absurd delivering (fails _ _)
  | checkFailed => exact fun delivering => absurd delivering (fails _ _)
  | cancelFailed => exact fun delivering => absurd delivering (fails _ _)
  | cancelled => exact fun delivering => absurd delivering (fails _ _)
  | finished =>
      intro delivering
      have same := (conclude_phase _ _ _).symm.trans delivering
      cases same
  | abandoned =>
      intro delivering
      have same := (conclude_phase _ _ _).symm.trans delivering
      rcases abandon_phase link with idle | abandoned
      · rw [idle] at same; cases same
      · rw [abandoned] at same; cases same
  | _ => exact fun delivering => delivering

theorem CallerTurns.begins {exchange : Exchange} {id : TaskId} {point later : CallerPoint}
    (turns : CallerTurns link id exchange point (.next after later))
    (before : point.begun = false) (begun : later.begun = true) :
    ∃ slot, after.phase = exchange.initialPhase slot ∧ after.completion = false ∧
      ((point.reserves = true → exchange.needsBuffer = true) →
        slot.isSome = exchange.needsBuffer) := by
  have sends {middle : Link slots size}
      (prepared : Preparation middle exchange (.next after later)) :
      ∃ slot, after.phase = exchange.initialPhase slot ∧ after.completion = false ∧
        slot.isSome = exchange.needsBuffer := by
    cases prepared with
    | receive => cases begun
    | reserve => cases begun
    | begin sends encoded unanswered =>
        subst sends
        exact ⟨none, rfl, rfl, unanswered.symm⟩
  cases turns with
  | enter free settled prepared =>
      obtain ⟨slot, phase, silent, needs⟩ := sends prepared
      exact ⟨slot, phase, silent, fun _ => needs⟩
  | silenced performed prepared =>
      obtain ⟨slot, phase, silent, needs⟩ := sends prepared
      exact ⟨slot, phase, silent, fun _ => needs⟩
  | begin => exact ⟨_, rfl, rfl, fun expects => (expects rfl).symm⟩
  | silence => cases begun
  | silenceLock => cases begun
  | silencing => cases begun
  | reserving => cases begun
  | startLock => cases before
  | startedSend => cases before
  | startedReceive => cases before
  | starting => cases before
  | started => cases before
  | late => cases before
  | cancelling => cases before
  | woken => cases before
  | waiting => cases before

theorem CallerTurns.expects {exchange : Exchange} {id : TaskId} {point later : CallerPoint}
    (turns : CallerTurns link id exchange point (.next after later))
    (before : point.reserves = true → exchange.needsBuffer = true)
    (reserves : later.reserves = true) : exchange.needsBuffer = true := by
  have prepares {middle : Link slots size}
      (prepared : Preparation middle exchange (.next after later)) :
      exchange.needsBuffer = true := by
    cases prepared with
    | receive receives => subst receives; rfl
    | reserve sends encoded answered => subst sends; exact answered
    | begin => cases reserves
  cases turns with
  | enter free settled prepared => exact prepares prepared
  | silenced performed prepared => exact prepares prepared
  | reserving => exact before rfl
  | _ => cases reserves

theorem Feeding.delivering {event : Event} (fed : Feeding link event turn) :
    (∃ next later, turn = .next next later ∧ later.copies?.isSome) ∨
      turn.Leaves fun after => after.phase = .delivering → link.phase = .delivering := by
  have passes {phase flags reaction} (moved : link.phase.onEvent event = (phase, flags, reaction))
      (other : ∀ slot, reaction ≠ .copy slot) : phase = .delivering → link.phase = .delivering := by
    intro delivering
    subst delivering
    cases kind : link.phase with
    | delivering => rfl
    | sending slot =>
        rw [kind] at moved
        cases event <;> cases slot <;> cases moved
        exact absurd rfl (other _)
    | waitingResponse slot =>
        rw [kind] at moved
        cases event <;> cases moved
        exact absurd rfl (other _)
    | abandoned slot =>
        rw [kind] at moved
        cases event <;> cases slot <;> cases moved
    | idle =>
        rw [kind] at moved
        cases event <;> cases moved
    | finished outcome =>
        rw [kind] at moved
        cases event <;> cases moved
  cases fed with
  | passed moved nothing =>
      rcases nothing with rfl | rfl
      · exact .inr (passes moved nofun)
      · exact .inr (passes moved nofun)
  | signalled moved => exact .inr (passes moved nofun)
  | copying moved => exact .inl ⟨_, _, rfl, rfl⟩
  | released moved => exact .inr (passes moved nofun)
  | drained moved =>
      right
      intro delivering
      exact passes moved nofun ((releaseSlot?_phase _ _).symm.trans delivering)

theorem FeedingAll.delivering {events : List Event} (fed : FeedingAll link events turn) :
    (∃ next later, turn = .next next later ∧ later.copies?.isSome) ∨
      turn.Leaves fun after => after.phase = .delivering → link.phase = .delivering := by
  induction fed with
  | nil => exact .inr id
  | last fed => exact fed.delivering
  | cons fed later ih =>
      rcases fed.delivering with ⟨next, point, same, _⟩ | first
      · cases same
      · rcases ih with copying | rest
        · exact .inl copying
        · exact .inr (rest.mono fun after second delivering => first (second delivering))

/-- A delivery is begun by the task that goes on to copy the frame. Another one was
under way before. -/
theorem InterruptTurns.delivering {id : TaskId} {point : InterruptPoint}
    (turns : InterruptTurns link id point turn) :
    (∃ next later, turn = .next next later ∧ later.copies?.isSome) ∨
      turn.Leaves fun after =>
        after.phase = .delivering → link.phase = .delivering ∧ point.copies? = none := by
  cases copies : point.copies? with
  | some slot =>
      rcases turns.copying copies with rfl | ⟨next, later, same, goesOn, _⟩ |
        ⟨middle, copied, agrees, ended⟩
      · exact .inr trivial
      · exact .inl ⟨next, later, same, by rw [goesOn]; rfl⟩
      · right
        by_cases delivering : middle.phase = .delivering
        · refine (ended.of_delivering delivering).mono fun after finished again => ?_
          rw [finished.1] at again
          cases again
        · by_cases abandoned : middle.phase = .abandoned none
          · refine (ended.of_abandoned abandoned).mono fun after idle again => ?_
            rw [idle] at again
            cases again
          · rw [ended.stale_eq delivering abandoned]
            exact fun again => absurd again delivering
  | none =>
      rcases turns.feeding copies with rfl | ⟨middle, same, fed⟩ | ⟨_, still, _⟩
      · exact .inr trivial
      · rcases fed.delivering with copying | kept
        · exact .inl copying
        · refine .inr (kept.mono fun after before delivering => ⟨?_, rfl⟩)
          exact same.phase.symm.trans (before delivering)
      · refine .inr (still.mono fun after same delivering => ⟨?_, rfl⟩)
        exact same.phase.symm.trans delivering

end Link

end UwbRadio
