import UwbRadio.Proofs.Bus.Replay
import UwbRadio.Proofs.Link.Locks
import UwbRadio.Proofs.Link.Writes

/-!
The registers are for whoever holds them. A step from a point that does not need the
registers leaves the bus alone, and takes the registers only while nobody has them. Of
any step it is known what every transaction on the bus is known to keep, and the event
side changes the device only where it is about to clear what it has read.
-/

namespace UwbRadio

namespace Link

variable {slots size : Nat} {link after : Link slots size} {id : TaskId}

structure SparesHolder (link after : Link slots size) : Prop where
  bus : after.bus = link.bus
  registers : link.registers.isFree = true ∨ after.registers = link.registers

theorem sparesHolder_of_eq (bus : after.bus = link.bus)
    (registers : after.registers = link.registers) : SparesHolder link after :=
  ⟨bus, .inr registers⟩

theorem SparesBus.sparesHolder (spared : SparesBus link after) : SparesHolder link after :=
  ⟨spared.bus, .inr spared.registers⟩

theorem CallerTurns.sparesHolder {exchange : Exchange} {point : CallerPoint}
    {turn : CallerTurn slots size} (turns : CallerTurns link id exchange point turn)
    (needless : point.holdsRegisters = false) : turn.Leaves (SparesHolder link) := by
  cases turns with
  | wait => trivial
  | silence => exact sparesHolder_of_eq (entered_bus link id) (entered_registers link id)
  | enter free settled prepared =>
      refine (prepared.bus_eq.and prepared.registers.1).mono fun after same => ?_
      exact sparesHolder_of_eq (same.1.trans (entered_bus link id))
        (same.2.trans (entered_registers link id))
  | silenceLock free => exact ⟨rfl, .inl free⟩
  | begin => exact sparesHolder_of_eq rfl rfl
  | starved => exact sparesHolder_of_eq rfl rfl
  | reserving => exact sparesHolder_of_eq rfl rfl
  | startLock free => exact ⟨rfl, .inl free⟩
  | finished => exact sparesHolder_of_eq (conclude_bus _ _ _) (conclude_registers _ _ _)
  | woken => exact sparesHolder_of_eq rfl rfl
  | abandoned =>
      exact sparesHolder_of_eq ((conclude_bus _ _ _).trans (abandon_bus link))
        ((conclude_registers _ _ _).trans (abandon_registers link))
  | waiting => exact sparesHolder_of_eq rfl rfl
  | _ => cases needless

theorem InterruptTurns.sparesHolder {point : InterruptPoint} {turn : InterruptTurn slots size}
    (turns : InterruptTurns link id point turn) (needless : point.holdsRegisters = false) :
    turn.Leaves (SparesHolder link) := by
  cases turns with
  | wait => trivial
  | event fed => exact fed.sparesBus.mono fun after spared => spared.sparesHolder
  | statusLock free => exact ⟨rfl, .inl free⟩
  | copyLock free => exact ⟨rfl, .inl free⟩
  | handover => exact sparesHolder_of_eq rfl rfl
  | _ => cases needless

section transfers

variable {relates : Bus → Bus → Prop} (transfers : Bus.Transfers relates)

include transfers

theorem CallerTurns.busRelated {exchange : Exchange} {point : CallerPoint}
    {turn : CallerTurn slots size} (turns : CallerTurns link id exchange point turn) :
    turn.Leaves fun after => relates link.bus after.bus := by
  by_cases needs : point.holdsRegisters = true
  · cases turns with
    | wait => trivial
    | silenceFailed performed => exact transfers.advance performed
    | silenced performed prepared =>
        refine prepared.bus_eq.mono fun after same => ?_
        rw [same]
        exact transfers.advance performed
    | silencing performed => exact transfers.advance performed
    | startFailed performed =>
        rw [Turn.Leaves, failed_bus]
        exact transfers.advance performed
    | startedSend performed => exact transfers.advance performed
    | startedReceive performed => exact transfers.advance performed
    | starting performed => exact transfers.advance performed
    | checkFailed performed =>
        rw [Turn.Leaves, failed_bus]
        exact transfers.value performed
    | started performed => exact transfers.value performed
    | late performed => exact transfers.value performed
    | cancelFailed performed =>
        rw [Turn.Leaves, failed_bus]
        exact transfers.advance performed
    | cancelled performed =>
        rw [Turn.Leaves, failed_bus]
        exact transfers.advance performed
    | cancelling performed => exact transfers.advance performed
    | _ => cases needs
  · refine (turns.sparesHolder (by simpa using needs)).mono fun after spared => ?_
    rw [spared.bus]
    exact transfers.refl _

theorem InterruptTurns.busRelated {point : InterruptPoint} {turn : InterruptTurn slots size}
    (turns : InterruptTurns link id point turn) :
    turn.Leaves fun after => relates link.bus after.bus := by
  have spares {middle : Link slots size} (spared : turn.Leaves fun after => SparesBus middle after)
      (related : relates link.bus middle.bus) :
      turn.Leaves fun after => relates link.bus after.bus := by
    refine spared.mono fun after spared => ?_
    rw [spared.bus]
    exact related
  cases turns with
  | wait => trivial
  | event fed => exact spares fed.sparesBus (transfers.refl _)
  | statusLock => exact transfers.refl _
  | readFailed performed => exact transfers.value performed
  | nothingPending performed => exact transfers.value performed
  | pending performed => exact transfers.value performed
  | clearFailed performed => exact transfers.setValue performed
  | cleared performed fed => exact spares fed.sparesBus (transfers.setValue performed)
  | copyLock => exact transfers.refl _
  | lengthFailed performed ended => exact spares ended.sparesBus (transfers.value performed)
  | length performed => exact transfers.value performed
  | tooLong free refused ended => exact spares ended.sparesBus (transfers.refl _)
  | bufferLock => exact transfers.refl _
  | frameFailed performed ended => exact spares ended.sparesBus (transfers.bytes performed)
  | unbuffered performed missing ended =>
      exact spares ended.sparesBus (transfers.bytes performed)
  | refused performed found foreign ended =>
      exact spares ended.sparesBus (transfers.bytes performed)
  | accepted performed found decoded ended =>
      exact spares ended.sparesBus (transfers.bytes performed)
  | handover => exact transfers.refl _

end transfers

theorem InterruptTurns.registers_kept {point : InterruptPoint} {turn : InterruptTurn slots size}
    (turns : InterruptTurns link id point turn)
    (reads : ∀ pending, point ≠ .clearStatus pending) :
    turn.Leaves fun after => after.bus.registers = link.bus.registers := by
  have value {register : Register} {result : Except (AccessError BusFault) UInt64} {bus : Bus}
      (performed : register.read.perform link.bus = (result, bus)) :
      bus.registers = link.bus.registers := by
    have kept := register.read_registers link.bus
    rw [performed] at kept
    exact kept
  have bytes {length : Nat} {result : Except (AccessError BusFault) Bytes} {bus : Bus}
      (performed : (Register.receiveBuffer.readPart 0 length).perform link.bus = (result, bus)) :
      bus.registers = link.bus.registers := by
    have kept := Register.receiveBuffer.readPart_registers 0 length link.bus
    rw [performed] at kept
    exact kept
  have ends {middle : Link slots size} {slot : Slot} {copied : Except (Error BusFault) Bool}
      (ended : CopyEnding middle slot copied turn)
      (same : middle.bus.registers = link.bus.registers) :
      turn.Leaves fun after => after.bus.registers = link.bus.registers :=
    ended.sparesBus.mono fun after spared => (congrArg Bus.registers spared.bus).trans same
  cases turns with
  | wait => trivial
  | event fed => exact fed.sparesBus.mono fun after spared => congrArg Bus.registers spared.bus
  | statusLock => exact rfl
  | readFailed performed => exact value performed
  | nothingPending performed => exact value performed
  | pending performed => exact value performed
  | @clearFailed pending => exact absurd rfl (reads pending)
  | @cleared pending => exact absurd rfl (reads pending)
  | copyLock => exact rfl
  | lengthFailed performed ended => exact ends ended (value performed)
  | length performed => exact value performed
  | tooLong free refused ended => exact ends ended rfl
  | bufferLock => exact rfl
  | frameFailed performed ended => exact ends ended (bytes performed)
  | unbuffered performed missing ended => exact ends ended (bytes performed)
  | refused performed found foreign ended => exact ends ended (bytes performed)
  | accepted performed found decoded ended => exact ends ended (bytes performed)
  | handover => exact rfl

end Link

end UwbRadio
