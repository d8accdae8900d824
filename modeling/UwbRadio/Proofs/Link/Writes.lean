import UwbRadio.Proofs.Bus.Writes
import UwbRadio.Proofs.Link.Caller
import UwbRadio.Proofs.Link.Interrupt

/-!
What a step writes to the device: a caller the access at hand, the event side the
events that it clears, and either nothing else.
-/

namespace UwbRadio

namespace CallerPoint

def writing? : CallerPoint → Option Written
  | .silencing accesses | .starting accesses _ | .cancelling accesses =>
      accesses.head?.bind Access.written?
  | .gate | .silenceLock | .reserving _ _ | .startLock _ _ | .checking _ | .waiting _ => none

end CallerPoint

namespace InterruptPoint

def writing? : InterruptPoint → Option Written
  | .clearStatus pending => Register.systemStatus.writing? pending
  | _ => none

end InterruptPoint

namespace Link

variable {slots size : Nat}

def Writes (link after : Link slots size) (write : Option Written) : Prop :=
  after.bus.written = link.bus.written ∨ after.bus.written = write.toList ++ link.bus.written

variable {link after : Link slots size}

theorem writes_of_bus_eq (same : after.bus = link.bus) (write : Option Written) :
    link.Writes after write :=
  .inl (congrArg Bus.written same)

@[simp] theorem entered_bus (link : Link slots size) (id : TaskId) :
    (link.entered id).bus = link.bus := by
  unfold entered discardPhase
  exact releaseSlot?_bus _ _

@[simp] theorem failed_bus (link : Link slots size) (error : Error BusFault) (counted : Bool) :
    (link.failed error counted).bus = link.bus := by
  unfold failed abort
  cases error with
  | transmitFault => exact releaseSlot?_bus _ _
  | _ => rfl

@[simp] theorem conclude_bus (link : Link slots size) (outcome : Outcome) (counted : Bool) :
    (link.conclude outcome counted).2.bus = link.bus := by
  cases outcome <;> rfl

@[simp] theorem abandon_bus (link : Link slots size) : link.abandon.2.bus = link.bus := by
  unfold abandon
  split <;> rfl

theorem Preparation.bus_eq {exchange : Exchange} {turn : CallerTurn slots size}
    (prepared : Preparation link exchange turn) :
    turn.Leaves fun after => after.bus = link.bus := by
  cases prepared <;> rfl

private theorem advances {accesses rest : List Access} {bus : Bus}
    (performed : (Access.advance accesses).perform link.bus = (.ok rest, bus)) :
    bus.written = (accesses.head?.bind Access.written?).toList ++ link.bus.written := by
  cases accesses with
  | nil => cases performed; rfl
  | cons access others => exact (Access.advance_ok performed).1

private theorem register_read {result : Except (AccessError BusFault) UInt64} {bus : Bus}
    (register : Register) (performed : register.read.perform link.bus = (result, bus)) :
    bus.written = link.bus.written := by
  have kept := register.read_written link.bus
  rw [performed] at kept
  exact kept

theorem CallerTurns.next_written {exchange : Exchange} {id : TaskId}
    {point later : CallerPoint} (turns : CallerTurns link id exchange point (.next after later)) :
    after.bus.written = point.writing?.toList ++ link.bus.written := by
  cases turns with
  | silence => exact congrArg Bus.written (entered_bus link id)
  | enter free settled prepared =>
      have kept : after.bus = _ := prepared.bus_eq
      exact congrArg Bus.written (kept.trans (entered_bus link id))
  | silenceLock => rfl
  | silenced performed prepared =>
      have kept : after.bus = _ := prepared.bus_eq
      exact (congrArg Bus.written kept).trans (advances performed)
  | silencing performed => exact advances performed
  | begin => rfl
  | reserving => rfl
  | startLock => rfl
  | startedSend performed => exact advances performed
  | startedReceive performed => exact advances performed
  | starting performed => exact advances performed
  | started performed => exact register_read _ performed
  | late performed => exact register_read _ performed
  | cancelling performed => exact advances performed
  | woken => rfl
  | waiting => rfl

theorem CallerTurns.writes {exchange : Exchange} {id : TaskId} {point : CallerPoint}
    {turn : CallerTurn slots size} (turns : CallerTurns link id exchange point turn) :
    turn.Leaves fun after => link.Writes after point.writing? := by
  cases turn with
  | wait => trivial
  | next after later => exact .inr turns.next_written
  | done after result =>
      cases turns with
      | enter free settled prepared =>
          have kept : after.bus = _ := prepared.bus_eq
          exact writes_of_bus_eq (kept.trans (entered_bus link id)) _
      | silenceFailed performed => exact .inl (Access.advance_error performed)
      | silenced performed prepared =>
          have kept : after.bus = _ := prepared.bus_eq
          exact .inr ((congrArg Bus.written kept).trans (advances performed))
      | starved => exact .inl rfl
      | startFailed performed =>
          exact .inl ((congrArg Bus.written (failed_bus _ _ _)).trans
            (Access.advance_error performed))
      | checkFailed performed =>
          exact .inl ((congrArg Bus.written (failed_bus _ _ _)).trans (register_read _ performed))
      | cancelFailed performed =>
          exact .inl ((congrArg Bus.written (failed_bus _ _ _)).trans
            (Access.advance_error performed))
      | cancelled performed =>
          exact .inr ((congrArg Bus.written (failed_bus _ _ _)).trans (advances performed))
      | finished => exact writes_of_bus_eq (conclude_bus _ _ _) _
      | abandoned => exact writes_of_bus_eq ((conclude_bus _ _ _).trans (abandon_bus link)) _

theorem InterruptTurns.writes {id : TaskId} {point : InterruptPoint}
    {turn : InterruptTurn slots size} (turns : InterruptTurns link id point turn) :
    turn.Leaves fun after => link.Writes after point.writing? := by
  have copied {result : Except (AccessError BusFault) Bytes} {length : Nat} {bus : Bus}
      (performed : (Register.receiveBuffer.readPart 0 length).perform link.bus = (result, bus)) :
      bus.written = link.bus.written := by
    have kept := Register.receiveBuffer.readPart_written 0 length link.bus
    rw [performed] at kept
    exact kept
  have cleared (pending : UInt64) :=
    Register.systemStatus.write_written pending link.bus
  cases turns with
  | wait => trivial
  | event fed => exact fed.sparesBus.mono fun after spared => writes_of_bus_eq spared.bus _
  | statusLock => exact .inl rfl
  | readFailed performed => exact .inl (register_read _ performed)
  | nothingPending performed => exact .inl (register_read _ performed)
  | pending performed => exact .inl (register_read _ performed)
  | @clearFailed pending fault bus performed =>
      have kept := cleared pending
      rw [performed] at kept
      exact .inl kept
  | @cleared pending bus turn performed fed =>
      have kept := cleared pending
      rw [performed] at kept
      exact fed.sparesBus.mono fun after spared =>
        .inr ((congrArg Bus.written spared.bus).trans kept)
  | copyLock => exact .inl rfl
  | lengthFailed performed ended =>
      exact ended.sparesBus.mono fun after spared =>
        .inl ((congrArg Bus.written spared.bus).trans (register_read _ performed))
  | length performed => exact .inl (register_read _ performed)
  | tooLong free refused ended =>
      exact ended.sparesBus.mono fun after spared => writes_of_bus_eq spared.bus _
  | bufferLock => exact .inl rfl
  | frameFailed performed ended =>
      exact ended.sparesBus.mono fun after spared =>
        .inl ((congrArg Bus.written spared.bus).trans (copied performed))
  | unbuffered performed missing ended =>
      exact ended.sparesBus.mono fun after spared =>
        .inl ((congrArg Bus.written spared.bus).trans (copied performed))
  | refused performed found foreign ended =>
      exact ended.sparesBus.mono fun after spared =>
        .inl ((congrArg Bus.written spared.bus).trans (copied performed))
  | accepted performed found decoded ended =>
      exact ended.sparesBus.mono fun after spared =>
        .inl ((congrArg Bus.written spared.bus).trans (copied performed))
  | handover => exact .inl rfl

end Link

end UwbRadio
