import UwbRadio.Proofs.Link.LeftOver
import UwbRadio.Proofs.Link.Registers

/-!
A caller clears the events of a transaction only while it silences the radio. What it
writes to start a transaction goes elsewhere, and to take back a start that came too late
it clears the warning alone.
-/

namespace UwbRadio

namespace Bus

/-- The events of a transaction show on one bus as they do on the other. -/
def SameEvents (bus after : Bus) : Prop :=
  after.events &&& Bits.engineEvents = bus.events &&& Bits.engineEvents

theorem sameEvents_of_eq {bus after : Bus} (same : after.events = bus.events) :
    SameEvents bus after :=
  congrArg (· &&& Bits.engineEvents) same

end Bus

def Written.Spares (write : Written) : Prop :=
  write.index ≠ Register.systemStatus.index ∨
    some write = Register.systemStatus.writing? Bits.halfPeriodWarning

theorem Written.Spares.events {write : Written} (spares : write.Spares) (file : RegisterFile) :
    (write.apply file).value Register.systemStatus &&& Bits.engineEvents =
      file.value Register.systemStatus &&& Bits.engineEvents := by
  rcases spares with elsewhere | warning
  · have same := file.read_write_other write.subAddress.toNat write.data elsewhere.symm
      Register.systemStatus.subAddress.toNat Register.systemStatus.width
    rw [RegisterFile.value, Written.apply, same]
    rfl
  · rw [Register.writing?_whole (by decide) rfl (by decide)] at warning
    cases warning
    have cleared := file.status_of_write Bits.halfPeriodWarning
    have apart : ~~~Bits.halfPeriodWarning &&& Bits.engineEvents = Bits.engineEvents := by decide
    rw [Written.apply]
    exact (congrArg (· &&& Bits.engineEvents) cleared).trans (by rw [UInt64.and_assoc, apart])

def startRegisters : List Register :=
  [Register.transmitBuffer, Register.transmitControl, Register.receiveTimeout,
    Register.systemConfig, Register.systemControl]

theorem Exchange.register_of_accesses {exchange : Exchange} {frame : Bytes} {access : Access}
    (member : access ∈ exchange.accesses frame) : access.register ∈ startRegisters := by
  cases exchange with
  | send request =>
      rw [accesses, transmitAccesses] at member
      split at member
      · simp only [receiveTimeoutAccesses, transmitControlAccess, List.cons_append, List.nil_append,
          List.mem_cons, List.not_mem_nil, or_false] at member
        rcases member with rfl | rfl | rfl | rfl | rfl <;> simp [Access.register, startRegisters]
      · simp only [transmitControlAccess, List.mem_cons, List.not_mem_nil, or_false] at member
        rcases member with rfl | rfl | rfl <;> simp [Access.register, startRegisters]
  | receive mode timeout =>
      simp only [accesses, receiveAccesses, receiveTimeoutAccesses, List.cons_append,
        List.nil_append, List.mem_cons, List.not_mem_nil, or_false] at member
      rcases member with rfl | rfl | rfl <;> simp [Access.register, startRegisters]

theorem startRegisters_elsewhere :
    ∀ register ∈ startRegisters, register.index ≠ Register.systemStatus.index := by decide

theorem cancelAccesses_whole : ∀ access ∈ cancelAccesses, access.Whole := by
  intro access member
  simp only [cancelAccesses, List.mem_cons, List.not_mem_nil, or_false] at member
  rcases member with rfl | rfl <;> exact Access.whole_write _ _

namespace CallerPoint

/-- What is left to do at the point clears no event of a transaction. -/
def SparesEvents : CallerPoint → Prop
  | .silenceLock | .silencing _ => False
  | .starting accesses _ => ∀ access ∈ accesses, access.register ∈ startRegisters
  | .cancelling accesses => accesses <:+ cancelAccesses
  | _ => True

theorem SparesEvents.writes {point : CallerPoint} (spares : point.SparesEvents) :
    ∀ write ∈ point.writing?, write.Spares := by
  intro write writes
  cases point with
  | silencing => exact spares.elim
  | starting accesses deadline =>
      obtain ⟨access, first, written⟩ := Option.bind_eq_some_iff.mp writes
      refine .inl ?_
      rw [Access.index_of_written? written]
      exact startRegisters_elsewhere _ (spares access (List.mem_of_mem_head? first))
  | cancelling accesses =>
      obtain ⟨access, first, written⟩ := Option.bind_eq_some_iff.mp writes
      rcases List.mem_cons.mp (spares.subset (List.mem_of_mem_head? first)) with rfl | last
      · refine .inl ?_
        rw [Access.index_of_written? written]
        decide
      · rw [List.mem_singleton] at last
        subst last
        exact .inr written.symm
  | _ => cases writes

end CallerPoint

namespace Link

variable {slots size : Nat} {link after : Link slots size} {exchange : Exchange} {id : TaskId}
  {point later : CallerPoint} {turn : CallerTurn slots size}

theorem Preparation.sparesEvents (prepared : Preparation link exchange (.next after later)) :
    later.SparesEvents := by
  cases prepared <;> trivial

/-- From a point where no event is cleared a caller comes to another, as long as it does
not find a transaction left over at the gate. -/
theorem CallerTurns.sparesEvents
    (turns : CallerTurns link id exchange point (.next after later))
    (spares : point.SparesEvents)
    (settled : point = .gate → link.phase.unfinished = false) : later.SparesEvents := by
  cases turns with
  | silence free leftOver => rw [settled rfl] at leftOver; cases leftOver
  | enter free settled prepared => exact prepared.sparesEvents
  | silenceLock => exact spares.elim
  | silenced => exact spares.elim
  | silencing => exact spares.elim
  | startLock => exact fun access => Exchange.register_of_accesses
  | starting performed => exact Access.advance_registers spares performed
  | late => exact List.suffix_refl _
  | @cancelling accesses rest bus performed more =>
      rw [Access.advance_whole (fun access member => cancelAccesses_whole access
        (spares.subset member)) performed]
      exact (List.tail_suffix accesses).trans spares
  | _ => trivial

theorem CallerTurns.keepsEvents (turns : CallerTurns link id exchange point turn)
    (spares : point.SparesEvents) :
    turn.Leaves fun after => Bus.SameEvents link.bus after.bus := by
  refine (turns.writes.and (turns.busRelated Bus.replays_transfers)).mono ?_
  rintro after ⟨silent | wrote, replays⟩
  · exact Bus.sameEvents_of_eq (congrArg (·.value Register.systemStatus)
      (replays.registers [] silent))
  · cases writes : point.writing? with
    | none =>
        rw [writes] at wrote
        exact Bus.sameEvents_of_eq (congrArg (·.value Register.systemStatus)
          (replays.registers [] wrote))
    | some write =>
        rw [writes] at wrote
        have registers := replays.registers [write] wrote
        rw [Bus.SameEvents, Bus.events, registers]
        exact (spares.writes write writes).events link.bus.registers

theorem CallerTurns.rests (turns : CallerTurns link id exchange point (.next after later))
    (before : point.begun = false) (quiet : point.silences = false) (idle : link.phase = .idle)
    (unbegun : later.begun = false) : after.phase = .idle ∧ later.silences = false := by
  cases turns with
  | silence free leftOver => rw [idle] at leftOver; cases leftOver
  | enter free settled prepared =>
      cases prepared with
      | receive => exact ⟨releaseSlot?_phase _ _, rfl⟩
      | reserve => exact ⟨releaseSlot?_phase _ _, rfl⟩
      | begin => cases unbegun
  | begin => cases unbegun
  | reserving => exact ⟨idle, rfl⟩
  | silenceLock => cases quiet
  | silenced => cases quiet
  | silencing => cases quiet
  | _ => cases before

theorem CallerTurns.returns_idle {result : Except (Error BusFault) Status}
    (turns : CallerTurns link id exchange point (.done after result))
    (before : point.begun = false) (quiet : point.silences = false) (idle : link.phase = .idle) :
    after.phase = .idle := by
  cases turns with
  | enter free settled prepared =>
      cases prepared
      exact releaseSlot?_phase _ _
  | starved => exact idle
  | silenceFailed => cases quiet
  | silenced => cases quiet
  | _ => cases before

/-- With no transaction under way the events that are fed in come to nothing. -/
theorem InterruptTurns.stays_idle {point : InterruptPoint} {turn : InterruptTurn slots size}
    (turns : InterruptTurns link id point turn) (idle : link.phase = .idle) :
    turn.Leaves fun after => after.phase = .idle := by
  have ends {middle : Link slots size} {slot : Slot} {copied : Except (Error BusFault) Bool}
      (ended : CopyEnding middle slot copied turn) (idle : middle.phase = .idle) :
      turn.Leaves fun after => after.phase = .idle := by
    rw [ended.stale_eq (by rw [idle]; nofun) (by rw [idle]; nofun)]
    exact idle
  cases turns with
  | wait => trivial
  | event fed => exact fed.of_abandoned (.inr idle)
  | cleared performed fed => exact fed.of_abandoned (.inr idle)
  | lengthFailed performed ended => exact ends ended idle
  | tooLong free refused ended => exact ends ended idle
  | frameFailed performed ended => exact ends ended idle
  | unbuffered performed missing ended => exact ends ended idle
  | refused performed found foreign ended => exact ends ended idle
  | accepted performed found decoded ended => exact ends ended idle
  | _ => exact idle

/-- A transmit fault is reported by the last write that takes the start back. -/
theorem CallerTurns.transmitFault {result : Except (Error BusFault) Status}
    (turns : CallerTurns link id exchange point (.done after result))
    (faults : result = .error .transmitFault) :
    after.phase = .idle ∧ point.begun = true ∧ point.holdsRegisters = true := by
  have refused {middle : Link slots size}
      (prepared : Preparation middle exchange (.done after result)) : False := by
    cases prepared with
    | refused sends tooLong =>
        cases faults
        unfold encodeFrame at tooLong
        dsimp only at tooLong
        split at tooLong
        · cases tooLong
        · cases tooLong
  have concluded {middle : Link slots size} {outcome : Outcome}
      (ends : (middle.conclude outcome exchange.counted).1 = .error .transmitFault) : False := by
    cases outcome <;> cases ends
  cases turns with
  | enter free settled prepared => exact (refused prepared).elim
  | silenced performed prepared => exact (refused prepared).elim
  | cancelled => exact ⟨releaseSlot?_phase _ _, rfl, rfl⟩
  | finished => exact (concluded faults).elim
  | abandoned => exact (concluded faults).elim
  | _ => cases faults

end Link

end UwbRadio
