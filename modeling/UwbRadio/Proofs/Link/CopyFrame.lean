import UwbRadio.Proofs.Bus.Healthy
import UwbRadio.Proofs.Link.Payload
import UwbRadio.Proofs.Link.Registers

/-!
The copy of a frame over a healthy bus. The device and the size of the buffers tell what
it comes to: the copy goes through without waiting and returns whether the frame fits its
buffer and is one for the link. In that case its payload is all that the buffer has then,
whatever frame was in it before.
-/

namespace UwbRadio

namespace Bus

theorem Healthy.record {bus : Bus} (healthy : bus.Healthy) (signal : Signal) :
    (bus.record signal).Healthy :=
  ⟨healthy.enabled, healthy.faultless, healthy.unstalled⟩

theorem healthy_transfers : Transfers fun bus after => bus.Healthy → after.Healthy where
  refl := fun _ healthy => healthy
  trans := fun first second healthy => second (first healthy)
  read := by
    intro header length bus healthy
    unfold Bus.read
    rw [if_pos healthy.enabled]
    obtain ⟨passes, still⟩ := healthy.attempt
    dsimp only
    rw [passes]
    exact still.record _
  write := by
    intro header data bus healthy
    unfold Bus.write
    rw [if_pos healthy.enabled]
    obtain ⟨passes, still⟩ := healthy.attempt
    dsimp only
    rw [passes]
    exact ⟨still.enabled, still.faultless, still.unstalled⟩

end Bus

inductive InterruptPoint.Reads (slot : Slot) (length : Nat) : InterruptPoint → Prop
  | length : Reads slot length (.readLength slot)
  | claim : Reads slot length (.bufferLock slot length)
  | frame : Reads slot length (.readFrame slot length)

namespace Link

variable {slots size : Nat} {link after : Link slots size} {id : TaskId} {slot : Slot}
  {point : InterruptPoint} {bytes : Bytes}

def received (bus : Bus) : Bytes :=
  bus.registers.read Register.receiveBuffer.index 0
    (receivedLength (bus.registers.value Register.receiveInfo))

theorem received_length (bus : Bus) :
    (received bus).length = receivedLength (bus.registers.value Register.receiveInfo) :=
  RegisterFile.read_length _ _ _ _

theorem receivedLength_le (info : UInt64) : receivedLength info ≤ Register.receiveBuffer.width := by
  have bound : (info &&& Bits.receivedLength).toNat ≤ Bits.receivedLength.toNat := by
    rw [UInt64.toNat_and]
    exact Nat.and_le_right
  have small : Bits.receivedLength.toNat ≤ Register.receiveBuffer.width := by decide
  rw [receivedLength]
  omega

theorem measures_frame (link : Link slots size) (id : TaskId) (slot : Slot)
    (healthy : link.bus.Healthy) :
    ∃ bus, link.interruptStep id (.readLength slot) =
      .next { link with bus } (.bufferLock slot (received link.bus).length) := by
  have plain : Register.receiveInfo.Plain := ⟨by decide, rfl, by decide⟩
  obtain ⟨bus, read, _, _⟩ := Register.read_healthy healthy plain (by decide)
  refine ⟨bus, ?_⟩
  simp only [interruptStep, healthy.not_stalled, perform_eq, read, mapError_ok,
    Bool.false_eq_true, if_false, received_length]

theorem claims_buffer (link : Link slots size) (id : TaskId) {length : Nat}
    (free : link.pool.accessible slot = true) (fits : length ≤ size) :
    ∃ buffer, link.interruptStep id (.bufferLock slot length) =
      .next { link with pool := (link.pool.setBuffer slot buffer).setLock slot (Lock.heldBy id) }
        (.readFrame slot length) := by
  have inside := Pool.lt_of_accessible free
  have found : link.pool.buffer? slot = some link.pool.buffers[slot.index] :=
    Vector.getElem?_eq_getElem inside
  have claims : link.pool.buffers[slot.index].claim? length = some _ := dif_pos fits
  simp only [interruptStep, free, if_true, found, Option.bind_some, claims]
  exact ⟨_, rfl⟩

theorem Claimed.inside {length : Nat} (claimed : link.Claimed id slot length) :
    slot.index < slots := by
  by_cases inside : slot.index < slots
  · exact inside
  · have locked := claimed.locked
    rw [Vector.getElem?_eq_none (Nat.le_of_not_lt inside)] at locked
    cases locked

theorem Claimed.fits {length : Nat} (claimed : link.Claimed id slot length) : length ≤ size := by
  obtain ⟨buffer, _, rfl⟩ := claimed.claimed
  exact buffer.usedBound

/-- The link that a copy returns to when it has read these bytes: the buffer is unlocked and
has the payload of their frame. -/
structure Returned (link middle : Link slots size) (slot : Slot) (bytes : Bytes) : Prop where
  agrees : Agrees link middle
  unlocked : middle.pool.lockOf slot.index = Lock.free
  payload : ∀ frame, decodeFrame? bytes = some frame → middle.pool.contents slot = frame.payload

theorem reads_frame (claimed : link.Claimed id slot (received link.bus).length)
    (healthy : link.bus.Healthy) :
    ∃ middle, link.interruptStep id (.readFrame slot (received link.bus).length) =
        Link.endCopy middle slot (.ok (decodeFrame? (received link.bus)).isSome) ∧
      Returned link middle slot (received link.bus) := by
  have plain : Register.receiveBuffer.Plain := ⟨by decide, rfl, by decide⟩
  have within : (received link.bus).length ≤ Register.receiveBuffer.width := by
    rw [received_length]
    exact receivedLength_le _
  obtain ⟨bus, read, _, _⟩ := Register.readPart_healthy healthy plain within
  have same : link.bus.registers.read Register.receiveBuffer.index 0 (received link.bus).length =
      received link.bus := by
    rw [received_length]
    rfl
  rw [same] at read
  obtain ⟨buffer, found, _⟩ := claimed.claimed
  have there : (link.pool.setLock slot Lock.free).buffer? slot = some buffer := found
  have loaded := claimed.contents_load found read
  have unlocked : (link.pool.setLock slot Lock.free).lockOf slot.index = Lock.free := by
    rw [Pool.lockOf_setLock_free, if_pos rfl]
  simp only [interruptStep, healthy.not_stalled, perform_eq, read, mapError_ok,
    Bool.false_eq_true, if_false, acceptFrame, releaseRegisters, there, loaded]
  cases decoded : decodeFrame? (received link.bus) with
  | none =>
      refine ⟨_, rfl, by constructor <;> rfl, unlocked, fun frame good => ?_⟩
      rw [decoded] at good
      cases good
  | some frame =>
      refine ⟨_, rfl, by constructor <;> rfl, unlocked, fun other good => ?_⟩
      cases decoded.symm.trans good
      rw [Pool.contents_loaded claimed.inside rfl, Buffer.contents_advance, loaded]
      exact decodeFrame?_payload decoded

theorem endCopy_moves (link : Link slots size) (slot : Slot)
    (copied : Except (Error BusFault) Bool) : link.endCopy slot copied ≠ .wait := by
  intro waits
  have ended := endCopy_turns link slot copied
  rw [waits] at ended
  cases ended

/-- The next step of a copy, where `bytes` are the frame in the device: the copy finds the
length, then claims a buffer that is large enough, and then returns. -/
inductive CopyStep (link : Link slots size) (self : TaskId) (slot : Slot) (bytes : Bytes) :
    InterruptPoint → Prop
  | measures {next}
      (goesOn : link.interruptStep self (.readLength slot) =
        .next next (.bufferLock slot bytes.length)) :
      CopyStep link self slot bytes (.readLength slot)
  | claims {next} (fits : bytes.length ≤ size)
      (goesOn : link.interruptStep self (.bufferLock slot bytes.length) =
        .next next (.readFrame slot bytes.length)) :
      CopyStep link self slot bytes (.bufferLock slot bytes.length)
  | returns {at_ good} {middle : Link slots size}
      (last : at_ = .bufferLock slot bytes.length ∧ size < bytes.length ∨
        at_ = .readFrame slot bytes.length ∧ bytes.length ≤ size)
      (returned : link.interruptStep self at_ = middle.endCopy slot (.ok good))
      (exactly : good = true ↔ bytes.length ≤ size ∧ ∃ frame, decodeFrame? bytes = some frame)
      (payload : ∀ frame, good = true → decodeFrame? bytes = some frame →
        middle.pool.contents slot = frame.payload) :
      CopyStep link self slot bytes at_

theorem CopyStep.moves (step : link.CopyStep id slot bytes point) :
    link.interruptStep id point ≠ .wait := by
  cases step with
  | measures goesOn => rw [goesOn]; exact Turn.next_ne_wait
  | claims fits goesOn => rw [goesOn]; exact Turn.next_ne_wait
  | returns last returned => rw [returned]; exact endCopy_moves _ _ _

theorem InterruptTurns.reads_on {later : InterruptPoint}
    (turns : InterruptTurns link id point (.next after later))
    (reads : point.Reads slot bytes.length) (healthy : link.bus.Healthy)
    (same : received link.bus = bytes) :
    (later.Reads slot bytes.length ∨ later = .handover slot) ∧ after.bus.Healthy ∧
      received after.bus = bytes := by
  have kept : after.bus.registers = link.bus.registers :=
    turns.registers_kept (by rintro pending rfl; cases reads)
  refine ⟨?_, turns.busRelated Bus.healthy_transfers healthy, ?_⟩
  · have ends {middle : Link slots size} {copied : Except (Error BusFault) Bool}
        (ended : CopyEnding middle slot copied (.next after later)) :
        later.Reads slot bytes.length ∨ later = .handover slot := by
      cases ended
      exact .inr rfl
    cases reads with
    | length =>
        cases turns with
        | lengthFailed performed ended => exact ends ended
        | length performed =>
            have plain : Register.receiveInfo.Plain := ⟨by decide, rfl, by decide⟩
            obtain ⟨bus, read, _, _⟩ := Register.read_healthy healthy plain (by decide)
            cases performed.symm.trans read
            rw [← same, received_length]
            exact .inl .claim
    | claim =>
        cases turns with
        | tooLong free refused ended => exact ends ended
        | bufferLock => exact .inl .frame
    | frame =>
        cases turns with
        | frameFailed performed ended => exact ends ended
        | unbuffered performed missing ended => exact ends ended
        | refused performed found foreign ended => exact ends ended
        | accepted performed found decoded ended => exact ends ended
  · rw [← same, received, received, kept]

end Link

end UwbRadio
