import UwbRadio.Proofs.Link.Registers

/-!
Serving an interrupt, transfer by transfer. The first transfer reads the event status
and the second clears what has been read of the events of a transaction, no more and no
less. Only when both have gone through are events fed in, and just those that the bits
tell that have been read.
-/

namespace UwbRadio

namespace Link

variable {slots size : Nat} {link after : Link slots size} {id : TaskId}

inductive StatusRead (link : Link slots size) : InterruptTurn slots size → Prop
  | waits : StatusRead link .wait
  | failed {fault bus} (kept : bus.registers = link.bus.registers) :
      StatusRead link (.done { link with bus }.releaseRegisters (.error (.bus fault)))
  | nothing {bus} (kept : bus.registers = link.bus.registers)
      (none : link.bus.events &&& Bits.engineEvents = 0) :
      StatusRead link (.done { link with bus }.releaseRegisters (.ok ()))
  | pending {bus} (kept : bus.registers = link.bus.registers) :
      StatusRead link
        (.next { link with bus } (.clearStatus (link.bus.events &&& Bits.engineEvents)))

theorem statusRead (link : Link slots size) (id : TaskId) :
    StatusRead link (link.interruptStep id .readStatus) := by
  have turns := interruptStep_turns link id .readStatus
  have kept := Register.systemStatus.read_registers link.bus
  generalize link.interruptStep id .readStatus = turn at turns
  cases turns with
  | wait => exact .waits
  | readFailed performed =>
      rw [performed] at kept
      exact .failed kept
  | nothingPending performed none =>
      rw [Register.status_read performed] at none
      rw [performed] at kept
      exact .nothing kept none
  | pending performed some =>
      rw [Register.status_read performed]
      rw [performed] at kept
      exact .pending kept

inductive StatusClear (link : Link slots size) (read : UInt64) : InterruptTurn slots size → Prop
  | waits : StatusClear link read .wait
  | failed {fault bus} (kept : bus.registers = link.bus.registers)
      (silent : bus.written = link.bus.written) :
      StatusClear link read (.done { link with bus }.releaseRegisters (.error (.bus fault)))
  | cleared {bus write turn}
      (cleared : bus.events = link.bus.events &&& ~~~(read &&& Bits.engineEvents))
      (wrote : bus.written = write :: link.bus.written)
      (fed : FeedingAll { link with bus }.releaseRegisters (eventsTold read) turn) :
      StatusClear link read turn

theorem statusClear (link : Link slots size) (id : TaskId) (read : UInt64) :
    StatusClear link read (link.interruptStep id (.clearStatus (read &&& Bits.engineEvents))) := by
  have written := Register.systemStatus.write_written (read &&& Bits.engineEvents) link.bus
  rw [interruptStep]
  split
  · exact .waits
  · rw [perform_eq]
    cases performed : (Register.systemStatus.write (read &&& Bits.engineEvents)).perform
        link.bus with
    | mk result bus =>
        rw [performed] at written
        cases result with
        | error fault => exact .failed (Register.status_uncleared performed) written
        | ok done =>
            rw [Register.writing?_whole (by decide) rfl (by decide)] at written
            have fed := feedPending_turns { link with bus }.releaseRegisters
              (read &&& Bits.engineEvents)
            rw [eventsTold_engineEvents] at fed
            exact .cleared (Register.status_cleared performed) written fed

theorem StatusClear.leaves {read : UInt64} {turn : InterruptTurn slots size}
    (clear : StatusClear link read turn) : turn.Leaves fun after =>
      (after.bus.events = link.bus.events ∧ after.bus.written = link.bus.written) ∨
        (after.bus.events = link.bus.events &&& ~~~(read &&& Bits.engineEvents) ∧
          ∃ write, after.bus.written = write :: link.bus.written) := by
  cases clear with
  | waits => trivial
  | failed kept silent => exact .inl ⟨congrArg (·.value Register.systemStatus) kept, silent⟩
  | @cleared bus write turn cleared wrote fed =>
      refine fed.sparesBus.mono fun after spared => .inr ?_
      rw [spared.bus]
      exact ⟨cleared, write, wrote⟩

/-- Only the read of the status leads to the point where events are cleared. -/
theorem InterruptTurns.of_clearStatus {point : InterruptPoint} {pending : UInt64}
    (turns : InterruptTurns link id point (.next after (.clearStatus pending))) :
    point = .readStatus ∧ pending = link.bus.events &&& Bits.engineEvents := by
  have fed {middle : Link slots size} {events : List Event}
      (all : FeedingAll middle events (.next after (.clearStatus pending))) :
      point = .readStatus ∧ pending = link.bus.events &&& Bits.engineEvents := by
    cases all.unlocked.1
  have ended {middle : Link slots size} {slot : Slot} {copied : Except (Error BusFault) Bool}
      (ending : CopyEnding middle slot copied (.next after (.clearStatus pending))) :
      point = .readStatus ∧ pending = link.bus.events &&& Bits.engineEvents := by
    cases ending.unlocked.1
  cases turns with
  | event once => exact fed (.last once)
  | pending performed some =>
      rw [Register.status_read performed]
      exact ⟨rfl, rfl⟩
  | cleared performed all => exact fed all
  | lengthFailed performed ending => exact ended ending
  | tooLong free refused ending => exact ended ending
  | frameFailed performed ending => exact ended ending
  | unbuffered performed missing ending => exact ended ending
  | refused performed found foreign ending => exact ended ending
  | accepted performed found decoded ending => exact ended ending

end Link

end UwbRadio
