import UwbRadio.Proofs.Link.Copy

/-!
The status flags and the phase. While a transaction is under way the flags say how it
has ended, and nothing else: none is set as long as it has not. `Flagged` is this rule.
From it follows what a caller reports that was starved or had started.
-/

namespace UwbRadio

namespace Status

theorem remove_insert {flags family : Status} (within : flags.remove family = empty)
    (status : Status) : (status.insert flags).remove family = status.remove family := by
  have cleared : flags.bits &&& ~~~family.bits = 0 := congrArg Status.bits within
  have parts : (status.bits ||| flags.bits) &&& ~~~family.bits =
      (status.bits &&& ~~~family.bits) ||| (flags.bits &&& ~~~family.bits) :=
    UInt16.toBitVec_inj.mp BitVec.and_or_distrib_right
  rw [remove, insert, parts, cleared, UInt16.or_zero]
  rfl

theorem remove_remove (status family : Status) :
    (status.remove family).remove family = status.remove family := by
  rw [remove, remove, UInt16.and_assoc, UInt16.and_self]

theorem insert_empty (status : Status) : status.insert empty = status :=
  congrArg Status.mk UInt16.or_zero

end Status

def Outcome.flags : Outcome → Status
  | .completed => .empty
  | .receiveTimeout => .receiveTimeout
  | .receiveFault => .receiveError
  | .requestTimeout => .requestTimeout

theorem Outcome.flags_within (outcome : Outcome) :
    outcome.flags.remove Status.faults = Status.empty := by
  cases outcome <;> rfl

namespace Phase

def flags : Phase → Status
  | .finished outcome => outcome.flags
  | _ => .empty

theorem flags_within (phase : Phase) : phase.flags.remove Status.faults = Status.empty := by
  cases phase with
  | finished outcome => exact outcome.flags_within
  | _ => exact Outcome.completed.flags_within

/-- An event sets the flags of the phase that it leads to, if the transaction had not
ended, and none if it had. -/
theorem onEvent_flags (event : Event) (phase : Phase) :
    (phase.flags = .empty ∧ (phase.onEvent event).2.1 = (phase.onEvent event).1.flags) ∨
      ((phase.onEvent event).2.1 = .empty ∧ (phase.onEvent event).1.flags = phase.flags) := by
  cases phase with
  | sending slot => cases event <;> cases slot <;> exact .inl ⟨rfl, rfl⟩
  | abandoned slot => cases event <;> cases slot <;> exact .inl ⟨rfl, rfl⟩
  | finished outcome => cases event <;> exact .inr ⟨rfl, rfl⟩
  | _ => cases event <;> exact .inl ⟨rfl, rfl⟩

theorem insert_onEvent {event : Event} {before phase : Phase} {flags : Status}
    {reaction : Reaction} (moved : before.onEvent event = (phase, flags, reaction))
    (status : Status) :
    (status.insert before.flags).insert flags = status.insert phase.flags ∧
      flags.remove Status.faults = .empty := by
  have set := onEvent_flags event before
  rw [moved] at set
  rcases set with ⟨unended, new⟩ | ⟨nothing, same⟩
  · dsimp only at new
    rw [unended, Status.insert_empty, new]
    exact ⟨rfl, phase.flags_within⟩
  · dsimp only at nothing same
    rw [nothing, Status.insert_empty, same]
    exact ⟨rfl, rfl⟩

end Phase

namespace CallerPoint

def awaitsEnd : CallerPoint → Bool
  | .reserving _ _ | .waiting _ => true
  | _ => false

end CallerPoint

namespace Link

variable {slots size : Nat} {link after : Link slots size}

structure Flagged (link : Link slots size) : Prop where
  initialized : link.status.remove Status.faults = Status.initialized
  underWay : link.phase.underWay = true →
    link.status = Status.initialized.insert link.phase.flags

theorem Flagged.congr (flagged : link.Flagged) (status : after.status = link.status)
    (phase : after.phase = link.phase) : after.Flagged where
  initialized := status ▸ flagged.initialized
  underWay := by
    rw [status, phase]
    exact flagged.underWay

theorem flagged_of_over (initialized : link.status.remove Status.faults = Status.initialized)
    (gone : link.phase.underWay = false) : link.Flagged where
  initialized := initialized
  underWay := fun underWay => by rw [gone] at underWay; cases underWay

theorem Flagged.over (flagged : link.Flagged) (status : after.status = link.status)
    (gone : after.phase.underWay = false) : after.Flagged :=
  flagged_of_over (status ▸ flagged.initialized) gone

theorem Flagged.over_insert (flagged : link.Flagged) {flags : Status}
    (within : flags.remove Status.faults = Status.empty)
    (status : after.status = link.status.insert flags)
    (gone : after.phase.underWay = false) : after.Flagged := by
  apply flagged_of_over
  · rw [status, Status.remove_insert within]
    exact flagged.initialized
  · exact gone

@[simp] theorem entered_status (link : Link slots size) (id : TaskId) :
    (link.entered id).status = link.status := by
  simp [entered, discardPhase]

theorem Flagged.entered (flagged : link.Flagged) (id : TaskId) : (link.entered id).Flagged := by
  apply flagged.over (entered_status link id)
  rw [entered_phase]
  rfl

theorem Flagged.begun (flagged : link.Flagged) {phase : Phase} (counted : Bool)
    (unended : phase.flags = Status.empty) : (link.beginTransaction phase counted).Flagged where
  initialized := (Status.remove_remove link.status Status.faults).trans flagged.initialized
  underWay := fun _ => by
    have started : (link.beginTransaction phase counted).phase.flags = Status.empty := unended
    rw [started, Status.insert_empty]
    exact flagged.initialized

theorem flags_initialPhase (exchange : Exchange) (slot : Option Slot) :
    (exchange.initialPhase slot).flags = Status.empty := by
  cases exchange with
  | send request => cases slot <;> rfl
  | receive mode timeout => cases slot <;> rfl

theorem Flagged.starve (flagged : link.Flagged) (idle : link.phase = .idle) :
    link.starve.Flagged := by
  apply flagged_of_over
  · rw [Link.starve, Status.remove_insert rfl, Status.remove_remove]
    exact flagged.initialized
  · exact congrArg Phase.underWay idle

theorem Flagged.failed (flagged : link.Flagged) (error : Error BusFault) (counted : Bool) :
    (link.failed error counted).Flagged := by
  unfold Link.failed abort
  cases error with
  | transmitFault =>
      have within : Status.startError.remove Status.faults = Status.empty := rfl
      apply flagged.over_insert within
      · exact releaseSlot?_status _ _
      · exact congrArg Phase.underWay (releaseSlot?_phase _ _)
  | _ => exact flagged.over rfl rfl

theorem Flagged.abandon (flagged : link.Flagged) : link.abandon.2.Flagged := by
  unfold Link.abandon
  split
  · exact flagged.over rfl rfl
  · exact flagged.over_insert Outcome.requestTimeout.flags_within rfl rfl

theorem conclude_status (link : Link slots size) (outcome : Outcome) (counted : Bool) :
    (link.conclude outcome counted).2.status = link.status := by
  cases outcome <;> rfl

theorem Preparation.flagged {exchange : Exchange} {turn : CallerTurn slots size}
    (prepared : Preparation link exchange turn) (flagged : link.Flagged) :
    turn.Leaves Flagged := by
  cases prepared with
  | receive => exact flagged
  | refused => exact flagged.congr rfl rfl
  | reserve => exact flagged
  | begin => exact flagged.begun true rfl

theorem CallerTurns.flagged {exchange : Exchange} {id : TaskId} {point : CallerPoint}
    {turn : CallerTurn slots size} (turns : CallerTurns link id exchange point turn)
    (admits : link.Admits id point) (flagged : link.Flagged) : turn.Leaves Flagged := by
  have concluded {middle : Link slots size} (outcome : Outcome) (kept : middle.Flagged) :
      (middle.conclude outcome exchange.counted).2.releaseGate.Flagged :=
    kept.congr (conclude_status middle outcome exchange.counted)
      (conclude_phase middle outcome exchange.counted)
  have moved (bus : Bus) : { link with bus }.Flagged := flagged.congr rfl rfl
  cases turns with
  | wait => trivial
  | silence => exact flagged.entered id
  | enter free settled prepared => exact prepared.flagged (flagged.entered id)
  | silenceFailed => exact flagged.congr rfl rfl
  | silenced performed prepared => exact prepared.flagged (flagged.congr rfl rfl)
  | @begin frame deadline slot pool reserved =>
      have kept : { link with pool }.Flagged := flagged.congr rfl rfl
      exact kept.begun exchange.counted (flags_initialPhase exchange (some slot))
  | @starved frame deadline pool =>
      have kept : { link with pool }.Flagged := flagged.congr rfl rfl
      exact (kept.starve (admits.idle nofun rfl)).congr rfl rfl
  | startFailed => exact (moved _).failed _ _
  | checkFailed => exact (moved _).failed _ _
  | cancelFailed => exact (moved _).failed _ _
  | cancelled => exact (moved _).failed _ _
  | finished => exact concluded _ (flagged.over rfl rfl)
  | abandoned => exact concluded _ flagged.abandon
  | waiting => exact flagged
  | _ => exact flagged.congr rfl rfl

theorem onEvent_over (event : Event) {phase : Phase} (gone : phase.underWay = false) :
    (phase.onEvent event).1.underWay = false := by
  cases phase with
  | idle => cases event <;> rfl
  | abandoned slot => cases event <;> cases slot <;> rfl
  | _ => cases gone

theorem Flagged.observed {event : Event} {phase : Phase} {flags : Status} {reaction : Reaction}
    (flagged : link.Flagged) (moved : link.phase.onEvent event = (phase, flags, reaction)) :
    (link.observed phase flags).Flagged := by
  obtain ⟨told, within⟩ := Phase.insert_onEvent moved Status.initialized
  cases before : link.phase.underWay with
  | true =>
      constructor
      · exact (Status.remove_insert within link.status).trans flagged.initialized
      · intro _
        exact (congrArg (Status.insert · flags) (flagged.underWay before)).trans told
  | false =>
      have gone := onEvent_over event before
      rw [moved] at gone
      exact flagged.over_insert within rfl gone

theorem Feeding.flagged {event : Event} {turn : InterruptTurn slots size}
    (fed : Feeding link event turn) (flagged : link.Flagged) : turn.Leaves Flagged := by
  cases fed with
  | passed moved => exact flagged.observed moved
  | signalled moved => exact (flagged.observed moved).congr rfl rfl
  | copying moved => exact flagged.observed moved
  | released moved => exact (flagged.observed moved).congr rfl rfl
  | drained moved =>
      exact (flagged.observed moved).congr (releaseSlot?_status _ _) (releaseSlot?_phase _ _)

theorem FeedingAll.flagged {events : List Event} {turn : InterruptTurn slots size}
    (fed : FeedingAll link events turn) (flagged : link.Flagged) : turn.Leaves Flagged := by
  induction fed with
  | nil => exact flagged
  | last fed => exact fed.flagged flagged
  | cons fed later ih => exact ih (fed.flagged flagged)

theorem copyOutcome_cases (copied : Except (Error BusFault) Bool) :
    copyOutcome copied = .completed ∨ copyOutcome copied = .receiveFault := by
  unfold copyOutcome
  split
  · exact .inl rfl
  · exact .inr rfl

theorem Flagged.finishCopy (flagged : link.Flagged) (copied : Except (Error BusFault) Bool) :
    (link.finishCopy (copyOutcome copied)).2.Flagged := by
  unfold Link.finishCopy
  split
  · rename_i delivering
    have unended : link.status = Status.initialized.insert .empty := by
      rw [flagged.underWay (congrArg Phase.underWay delivering), delivering]
      rfl
    rcases copyOutcome_cases copied with completed | failed
    · rw [completed]
      exact ⟨flagged.initialized, fun _ => unended⟩
    · rw [failed]
      refine ⟨?_, fun _ => congrArg (Status.insert · Status.receiveError) unended⟩
      exact (Status.remove_insert rfl link.status).trans flagged.initialized
  · exact flagged.over rfl rfl
  · exact flagged

theorem CopyEnding.flagged {slot : Slot} {copied : Except (Error BusFault) Bool}
    {turn : InterruptTurn slots size} (ended : CopyEnding link slot copied turn)
    (flagged : link.Flagged) : turn.Leaves Flagged := by
  have kept := flagged.finishCopy copied
  cases ended with
  | stale other =>
      rw [other] at kept
      exact kept.congr rfl rfl
  | handover current =>
      rw [current] at kept
      exact kept.congr rfl rfl
  | queued current =>
      rw [current] at kept
      unfold enqueue
      split <;> exact kept.congr rfl rfl
  | dropped current =>
      rw [current] at kept
      exact kept.congr rfl rfl

theorem InterruptTurns.flagged {id : TaskId} {point : InterruptPoint}
    {turn : InterruptTurn slots size} (turns : InterruptTurns link id point turn)
    (flagged : link.Flagged) : turn.Leaves Flagged := by
  cases copies : point.copies? with
  | some slot =>
      rcases turns.copying copies with rfl | ⟨next, later, rfl, _, agrees⟩ |
        ⟨middle, copied, agrees, ended⟩
      · trivial
      · exact flagged.congr agrees.status agrees.phase
      · exact ended.flagged (flagged.congr agrees.status agrees.phase)
  | none =>
      rcases turns.feeding copies with rfl | ⟨middle, same, fed⟩ | ⟨_, still, _⟩
      · trivial
      · exact fed.flagged (flagged.congr same.status same.phase)
      · exact still.mono fun after same => flagged.congr same.status same.phase

/-- The result of a call agrees with the flags and the state that it leaves. -/
def Reports (link : Link slots size) : Except (Error BusFault) Status → Prop
  | .ok status => status = Status.initialized ∧ link.status = status ∧ link.state = .completed
  | .error .receiveTimeout =>
      link.status = Status.initialized.insert Status.receiveTimeout ∧ link.state = .timedOut
  | .error .receiveFault =>
      link.status = Status.initialized.insert Status.receiveError ∧ link.state = .faulted
  | .error .requestTimeout =>
      link.status = Status.initialized.insert Status.requestTimeout ∧ link.state = .timedOut
  | .error _ => False

theorem state_of_over (gone : link.phase.underWay = false) : link.state = link.last := by
  unfold state
  cases kind : link.phase with
  | idle => rfl
  | abandoned slot => rfl
  | _ => rw [kind] at gone; cases gone

/-- A transaction that is over reports its outcome if the flags are those of it. -/
theorem reports_conclude {outcome : Outcome} (counted : Bool)
    (told : link.status = Status.initialized.insert outcome.flags)
    (gone : link.phase.underWay = false) :
    (link.conclude outcome counted).2.releaseGate.Reports (link.conclude outcome counted).1 := by
  have status : (link.conclude outcome counted).2.releaseGate.status =
      Status.initialized.insert outcome.flags :=
    (conclude_status link outcome counted).trans told
  have last : (link.conclude outcome counted).2.releaseGate.last = outcome.state := by
    cases outcome <;> rfl
  have state : (link.conclude outcome counted).2.releaseGate.state = outcome.state := by
    rw [← last]
    apply state_of_over
    exact (congrArg Phase.underWay (conclude_phase link outcome counted)).trans gone
  cases outcome with
  | completed => exact ⟨told, rfl, state⟩
  | receiveTimeout => exact ⟨status, state⟩
  | receiveFault => exact ⟨status, state⟩
  | requestTimeout => exact ⟨status, state⟩

theorem reports_starve (initialized : link.status.remove Status.faults = Status.initialized)
    (idle : link.phase = .idle) : link.starve.releaseGate.Reports (.error .requestTimeout) := by
  constructor
  · exact congrArg (Status.insert · Status.requestTimeout) initialized
  · exact state_of_over (congrArg Phase.underWay idle)

theorem reports_abandon (flagged : link.Flagged) (counted : Bool)
    (underWay : link.phase.underWay = true)  :
    (link.abandon.2.conclude link.abandon.1 counted).2.releaseGate.Reports
      (link.abandon.2.conclude link.abandon.1 counted).1 := by
  have told := flagged.underWay underWay
  unfold abandon
  split
  · rename_i outcome ended
    rw [ended] at told
    exact reports_conclude counted told rfl
  · rename_i unended
    have silent : link.phase.flags = .empty := by
      cases kind : link.phase with
      | finished outcome => exact absurd kind (unended outcome)
      | _ => rfl
    rw [silent, Status.insert_empty] at told
    exact reports_conclude counted (congrArg (Status.insert · Status.requestTimeout) told) rfl

theorem CallerTurns.reports {exchange : Exchange} {id : TaskId} {point : CallerPoint}
    {result : Except (Error BusFault) Status}
    (turns : CallerTurns link id exchange point (.done after result))
    (admits : link.Admits id point) (flagged : link.Flagged) (awaits : point.awaitsEnd = true) :
    after.Reports result := by
  cases turns with
  | starved => exact reports_starve flagged.initialized (admits.idle nofun rfl)
  | finished woken ended =>
      have told := flagged.underWay (admits.underWay rfl)
      rw [ended] at told
      exact reports_conclude _ told rfl
  | abandoned => exact reports_abandon flagged _ (admits.underWay rfl)
  | _ => cases awaits

end Link

end UwbRadio
