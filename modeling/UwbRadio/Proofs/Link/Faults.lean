import UwbRadio.Proofs.Link.Drain
import UwbRadio.Proofs.Link.Handover
import UwbRadio.Proofs.Link.Progress

/-!
The fault flags that a call leaves. A call that has waited for a buffer or for its end leaves
the flag of what it returns and no other. One that has failed before leaves flags that are
not its own: before its transaction begins those that the link showed already, and while
it starts the hardware that of an event which has come too early.
-/

namespace UwbRadio

def Error.flag : Error BusFault → Status
  | .transmitFault => .startError
  | .receiveTimeout => .receiveTimeout
  | .receiveFault => .receiveError
  | .requestTimeout => .requestTimeout
  | _ => .empty

def Error.startFlag : Error BusFault → Status
  | .transmitFault => .startError
  | _ => .empty

def resultFlag : Except (Error BusFault) Status → Status
  | .ok _ => .empty
  | .error error => error.flag

namespace Status

theorem empty_insert (flags : Status) : empty.insert flags = flags :=
  congrArg Status.mk UInt16.zero_or

end Status

namespace Phase

theorem flags_of_outcome (phase : Phase) : ∃ outcome : Outcome, phase.flags = outcome.flags := by
  cases phase with
  | finished outcome => exact ⟨outcome, rfl⟩
  | _ => exact ⟨.completed, rfl⟩

theorem flags_of_over {phase : Phase} (gone : phase.underWay = false) : phase.flags = .empty := by
  cases phase with
  | idle => rfl
  | abandoned => rfl
  | _ => cases gone

theorem onEvent_unflagged (event : Event) {phase : Phase} (gone : phase.underWay = false) :
    (phase.onEvent event).2.1 = .empty := by
  rcases onEvent_flags event phase with ⟨_, set⟩ | ⟨none, _⟩
  · rw [set]
    exact flags_of_over (Link.onEvent_over event gone)
  · exact none

end Phase

namespace Link

variable {slots size : Nat} {link after : Link slots size} {exchange : Exchange} {id : TaskId}
  {point : CallerPoint} {turn : CallerTurn slots size}
  {result : Except (Error BusFault) Status}

/-- The flags that do not stem from how the call ends, if its next step is its last. -/
def staleFaults (link : Link slots size) (point : CallerPoint) : Status :=
  if point.awaitsEnd then .empty
  else if point.begun then link.phase.flags
  else link.status.faultsOf

theorem Reports.faults (reports : after.Reports result) :
    after.status.faultsOf = resultFlag result := by
  cases result with
  | ok status =>
      obtain ⟨isInitialized, same, _⟩ := reports
      rw [same, isInitialized]
      decide
  | error error =>
      cases error with
      | receiveTimeout => rw [reports.1]; decide
      | receiveFault => rw [reports.1]; decide
      | requestTimeout => rw [reports.1]; decide
      | _ => exact reports.elim

theorem Preparation.refused_flag (prepared : Preparation link exchange (.done after result)) :
    after.status = link.status ∧ resultFlag result = .empty := by
  cases prepared with
  | @refused request error sends failed =>
      refine ⟨rfl, ?_⟩
      by_cases fits : request.payload.length ≤ maxPayloadLength
      · obtain ⟨buffer, encoded⟩ :=
          encodeFrame_fits BusFault (link.nextHeader request.destination) fits
        cases encoded.symm.trans failed
      · have refused := encodeFrame_tooLong BusFault (link.nextHeader request.destination)
          (Nat.lt_of_not_le fits)
        cases refused.symm.trans failed
        rfl

theorem CallerTurns.fails_early (turns : CallerTurns link id exchange point (.done after result))
    (unbegun : point.begun = false) (unawaited : point.awaitsEnd = false) :
    after.status = link.status ∧ resultFlag result = .empty := by
  cases turns with
  | enter free settled prepared =>
      obtain ⟨same, flag⟩ := prepared.refused_flag
      exact ⟨same.trans (entered_status link id), flag⟩
  | silenceFailed => exact ⟨rfl, rfl⟩
  | silenced performed prepared => exact prepared.refused_flag
  | starved => cases unawaited
  | finished => cases unbegun
  | abandoned => cases unbegun
  | _ => cases unbegun

/-- A call that returns while it starts the hardware has failed to. -/
theorem CallerTurns.fails_start
    (turns : CallerTurns link id exchange point (.done after result))
    (begun : point.begun = true) (starting : point.awaitsEnd = false) :
    ∃ bus error, after = { link with bus }.failed error exchange.counted ∧
      result = .error error ∧ (error = .transmitFault ∨ ∃ fault, error = .bus fault) := by
  cases turns with
  | startFailed => exact ⟨_, _, rfl, rfl, .inr ⟨_, rfl⟩⟩
  | checkFailed => exact ⟨_, _, rfl, rfl, .inr ⟨_, rfl⟩⟩
  | cancelFailed => exact ⟨_, _, rfl, rfl, .inr ⟨_, rfl⟩⟩
  | cancelled => exact ⟨_, _, rfl, rfl, .inl rfl⟩
  | enter => cases begun
  | silenceFailed => cases begun
  | silenced => cases begun
  | starved => cases begun
  | finished => cases starting
  | abandoned => cases starting

theorem failed_state (link : Link slots size) (error : Error BusFault) (counted : Bool) :
    (link.failed error counted).state = .faulted := by
  rw [state_of_over (failed_over link error counted)]
  unfold failed abort
  cases error with
  | transmitFault => exact (sparesBus_releaseSlot? _ _).last
  | _ => rfl

theorem failed_status (link : Link slots size) (error : Error BusFault) (counted : Bool) :
    (link.failed error counted).status = link.status.insert error.startFlag := by
  unfold failed abort
  cases error with
  | transmitFault => exact releaseSlot?_status _ _
  | _ => exact (Status.insert_empty link.status).symm

theorem faultsOf_failed_start {error : Error BusFault} (phase : Phase)
    (kind : error = .transmitFault ∨ ∃ fault, error = .bus fault) :
    ((Status.initialized.insert phase.flags).insert error.startFlag).faultsOf =
      error.flag.insert phase.flags ∧
    (error.flag.insert phase.flags = error.flag ↔ phase.flags = .empty) := by
  have own : error.startFlag = error.flag ∧
      (error.flag = .startError ∨ error.flag = .empty) := by
    rcases kind with rfl | ⟨fault, rfl⟩
    · exact ⟨rfl, .inl rfl⟩
    · exact ⟨rfl, .inr rfl⟩
  obtain ⟨outcome, set⟩ := phase.flags_of_outcome
  rw [own.1, set]
  rcases own.2 with flag | flag
  · rw [flag]
    cases outcome <;> decide
  · rw [flag]
    cases outcome <;> decide

theorem CallerTurns.ok_status (turns : CallerTurns link id exchange point (.done after result))
    {status : Status} (told : result = .ok status) : after.status = status := by
  have concluded (middle : Link slots size) (outcome : Outcome)
      (told : (middle.conclude outcome exchange.counted).1 = .ok status) :
      (middle.conclude outcome exchange.counted).2.releaseGate.status = status := by
    cases outcome with
    | completed => exact Except.ok.inj told
    | _ => cases told
  cases turns with
  | enter free settled prepared => cases prepared; cases told
  | silenced performed prepared => cases prepared; cases told
  | finished => exact concluded _ _ told
  | abandoned => exact concluded _ _ told
  | _ => cases told

theorem CallerTurns.faults (turns : CallerTurns link id exchange point (.done after result))
    (admits : link.Admits id point) (flagged : link.Flagged) :
    after.status.faultsOf = (resultFlag result).insert (link.staleFaults point) ∧
      (after.status.faultsOf = resultFlag result ↔ link.staleFaults point = .empty) := by
  unfold staleFaults
  cases awaits : point.awaitsEnd with
  | true =>
      have faults := (turns.reports admits flagged awaits).faults
      rw [if_pos rfl, Status.insert_empty]
      exact ⟨faults, iff_of_true faults rfl⟩
  | false =>
      cases begun : point.begun with
      | true =>
          obtain ⟨bus, error, rfl, rfl, kind⟩ := turns.fails_start begun awaits
          have told : { link with bus }.status = Status.initialized.insert link.phase.flags :=
            flagged.underWay (admits.underWay begun)
          rw [if_neg nofun, if_pos rfl, failed_status, told]
          obtain ⟨faults, own⟩ := faultsOf_failed_start link.phase kind
          rw [faults]
          exact ⟨rfl, own⟩
      | false =>
          obtain ⟨same, none⟩ := turns.fails_early begun awaits
          rw [if_neg nofun, if_neg nofun, same, none, Status.empty_insert]
          exact ⟨rfl, Iff.rfl⟩

theorem CallerTurns.over_of_done (turns : CallerTurns link id exchange point (.done after result))
    (admits : link.Admits id point) : after.phase.underWay = false := by
  cases begun : point.begun with
  | true => exact turns.over_of_begun begun
  | false =>
      have idle (past : point ≠ .gate) : link.phase.underWay = false := by
        rw [admits.idle past begun]
        rfl
      cases turns with
      | enter free settled prepared =>
          cases prepared with
          | refused => exact congrArg Phase.underWay (entered_phase link id)
      | silenceFailed => exact idle nofun
      | silenced performed prepared =>
          cases prepared with
          | refused => exact idle nofun
      | starved => exact idle nofun
      | _ => cases begun

theorem CallerTurns.keeps_status {later : CallerPoint}
    (turns : CallerTurns link id exchange point (.next after later))
    (unbegun : later.begun = false) : after.status = link.status := by
  have prepares {middle : Link slots size}
      (prepared : Preparation middle exchange (.next after later)) :
      after.status = middle.status := by
    cases prepared with
    | receive => rfl
    | reserve => rfl
    | begin => cases unbegun
  cases turns with
  | silence => exact entered_status link id
  | enter free settled prepared => exact (prepares prepared).trans (entered_status link id)
  | @silenced accesses bus turn performed prepared =>
      have same : after.status = { link with bus }.releaseRegisters.status := prepares prepared
      exact same
  | begin => cases unbegun
  | _ => rfl

/-- No transaction is under way, and the flags are as they were. -/
structure Rests (link after : Link slots size) : Prop where
  ended : after.phase.underWay = false
  status : after.status = link.status

theorem Rests.trans {middle : Link slots size} (first : link.Rests middle)
    (second : middle.Rests after) : link.Rests after :=
  ⟨second.ended, second.status.trans first.status⟩

theorem Feeding.keeps_rest {event : Event} {turn : InterruptTurn slots size}
    (fed : Feeding link event turn) (gone : link.phase.underWay = false) :
    turn.Leaves link.Rests := by
  have observed {phase : Phase} {flags : Status} {reaction : Reaction}
      (moved : link.phase.onEvent event = (phase, flags, reaction)) :
      link.Rests (link.observed phase flags) := by
    have ended := onEvent_over event gone
    have none := Phase.onEvent_unflagged event gone
    rw [moved] at ended none
    dsimp only at none
    rw [none]
    exact ⟨ended, Status.insert_empty link.status⟩
  cases fed with
  | passed moved => exact observed moved
  | signalled moved => exact ⟨(observed moved).ended, (observed moved).status⟩
  | copying moved => exact observed moved
  | released moved => exact ⟨(observed moved).ended, (observed moved).status⟩
  | drained moved =>
      have kept := observed moved
      refine ⟨?_, (releaseSlot?_status _ _).trans kept.status⟩
      rw [releaseSlot?_phase]
      exact kept.ended

theorem FeedingAll.keeps_rest {events : List Event} {turn : InterruptTurn slots size}
    (fed : FeedingAll link events turn) (gone : link.phase.underWay = false) :
    turn.Leaves link.Rests := by
  induction fed with
  | nil => exact ⟨gone, rfl⟩
  | last fed => exact fed.keeps_rest gone
  | cons fed later ih =>
      have first : Rests _ _ := fed.keeps_rest gone
      exact (ih first.ended).mono fun _ rests => first.trans rests

theorem CopyEnding.keeps_rest {slot : Slot} {copied : Except (Error BusFault) Bool}
    {turn : InterruptTurn slots size} (ended : CopyEnding link slot copied turn)
    (gone : link.phase.underWay = false) : turn.Leaves link.Rests := by
  have finished : ∃ next, link.finishCopy (copyOutcome copied) = (false, next) ∧
      link.Rests next := by
    unfold finishCopy
    split
    · rename_i delivering
      rw [delivering] at gone
      cases gone
    · exact ⟨_, rfl, rfl, rfl⟩
    · exact ⟨link, rfl, gone, rfl⟩
  obtain ⟨next, other, rests⟩ := finished
  cases ended with
  | stale found =>
      cases other.symm.trans found
      exact ⟨rests.ended, rests.status⟩
  | handover current => cases other.symm.trans current
  | queued current => cases other.symm.trans current
  | dropped current => cases other.symm.trans current

theorem InterruptTurns.keeps_rest {at_ : InterruptPoint} {turn : InterruptTurn slots size}
    (turns : InterruptTurns link id at_ turn) (gone : link.phase.underWay = false) :
    turn.Leaves link.Rests := by
  cases copies : at_.copies? with
  | some slot =>
      rcases turns.copying copies with rfl | ⟨next, later, rfl, _, agrees⟩ |
        ⟨middle, copied, agrees, ended⟩
      · trivial
      · exact ⟨agrees.phase ▸ gone, agrees.status⟩
      · have first : link.Rests middle := ⟨agrees.phase ▸ gone, agrees.status⟩
        exact (ended.keeps_rest first.ended).mono fun _ rests => first.trans rests
  | none =>
      rcases turns.feeding copies with rfl | ⟨middle, same, fed⟩ | ⟨_, still, _⟩
      · trivial
      · have first : link.Rests middle := ⟨same.phase ▸ gone, same.status⟩
        exact (fed.keeps_rest first.ended).mono fun _ rests => first.trans rests
      · exact still.mono fun _ same => ⟨same.phase ▸ gone, same.status⟩

/-- A caller that goes on without beginning its transaction leaves the link at rest. -/
theorem CallerTurns.keeps_rest {later : CallerPoint}
    (turns : CallerTurns link id exchange point (.next after later))
    (unbegun : later.begun = false) (gone : link.phase.underWay = false)
    (admits : link.Admits id point) : link.Rests after := by
  have before : point.begun = false := by
    refine Bool.eq_false_iff.mpr fun begun => ?_
    rw [admits.underWay begun] at gone
    cases gone
  refine ⟨?_, turns.keeps_status unbegun⟩
  have ended : (Turn.next after later : CallerTurn slots size).Leaves fun after =>
      after.phase.underWay = false :=
    turns.stays_over before (by rintro _ _ ⟨⟩; exact unbegun) gone
  exact ended

end Link

end UwbRadio
