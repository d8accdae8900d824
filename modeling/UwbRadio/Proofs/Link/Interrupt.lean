import UwbRadio.Link.Interrupt
import UwbRadio.Proofs.Link.Basic

/-!
What one step of the event side can do, as relations with a constructor for each
way that it can turn out: what an event makes of the phase, how several events are
fed in one after the other, how a copy ends, and from these a whole step.
-/

namespace UwbRadio

def showsAny (status : UInt64) (bits : List Nat) : Bool :=
  bits.any fun bit => status.toNat.testBit bit

/-- The events that the status tells, bit by bit: first that a frame has been sent, then how
a reception has ended, where a good frame comes before an error and an error before a
timeout. -/
def eventsTold (status : UInt64) : List Event :=
  (if showsAny status [7] then [.sent] else []) ++
    (if showsAny status [14] then [.received]
      else if showsAny status [12, 15, 16, 29] then [.receiveError]
      else if showsAny status [17, 21, 26] then [.receiveTimeout]
      else [])

theorem testBit_mask {mask : UInt64} {bits : List Nat} (inside : ∀ bit ∈ bits, bit < 64)
    (picks : ∀ bit : Fin 64, mask.toNat.testBit bit = bits.contains bit.val) (bit : Nat) :
    mask.toNat.testBit bit = bits.contains bit := by
  by_cases small : bit < 64
  · exact picks ⟨bit, small⟩
  · have wide : 2 ^ 64 ≤ 2 ^ bit := Nat.pow_le_pow_right (by decide) (Nat.le_of_not_lt small)
    have absent : bit ∉ bits := fun member => small (inside bit member)
    rw [Nat.testBit_lt_two_pow (Nat.lt_of_lt_of_le mask.toNat_lt wide), eq_comm,
      List.contains_eq_mem]
    exact decide_eq_false absent

theorem pendingIn_eq_showsAny (status : UInt64) {family : UInt64} {bits : List Nat}
    (inside : ∀ bit ∈ bits, bit < 64)
    (picks : ∀ bit : Fin 64, family.toNat.testBit bit = bits.contains bit.val) :
    pendingIn status family = showsAny status bits := by
  have shown (bit : Nat) : (status &&& family).toNat.testBit bit =
      (status.toNat.testBit bit && bits.contains bit) := by
    rw [UInt64.toNat_and, Nat.testBit_and, testBit_mask inside picks]
  rw [Bool.eq_iff_iff, pendingIn, bne_iff_ne, showsAny, List.any_eq_true]
  constructor
  · intro pending
    obtain ⟨bit, set⟩ := Nat.exists_testBit_of_ne_zero
      (fun none => pending (UInt64.toNat_inj.mp none))
    rw [shown, Bool.and_eq_true] at set
    exact ⟨bit, List.contains_iff_mem.mp set.2, set.1⟩
  · rintro ⟨bit, member, set⟩ none
    have both := shown bit
    rw [none, UInt64.toNat_zero, Nat.zero_testBit, set, List.contains_iff_mem.mpr member] at both
    cases both

theorem eventsTold_eq (status : UInt64) :
    eventsTold status = (if pendingIn status Bits.frameSent then [.sent] else []) ++
      (receptionEvent? status).toList := by
  have sent : pendingIn status Bits.frameSent = showsAny status [7] :=
    pendingIn_eq_showsAny status (by decide) (by decide)
  have good : pendingIn status Bits.frameGood = showsAny status [14] :=
    pendingIn_eq_showsAny status (by decide) (by decide)
  have errors : pendingIn status Bits.receiveErrors = showsAny status [12, 15, 16, 29] :=
    pendingIn_eq_showsAny status (by decide) (by decide)
  have timeouts : pendingIn status Bits.receiveTimeouts = showsAny status [17, 21, 26] :=
    pendingIn_eq_showsAny status (by decide) (by decide)
  rw [receptionEvent?, sent, good, errors, timeouts, eventsTold]
  congr 1
  split
  · rfl
  · split
    · rfl
    · split <;> rfl

theorem showsAny_and (status mask : UInt64) {bits : List Nat}
    (among : ∀ bit ∈ bits, mask.toNat.testBit bit = true) :
    showsAny (status &&& mask) bits = showsAny status bits := by
  induction bits with
  | nil => rfl
  | cons bit rest ih =>
      have later := ih fun other member => among other (List.mem_cons_of_mem bit member)
      unfold showsAny at later ⊢
      rw [List.any_cons, List.any_cons, later, UInt64.toNat_and, Nat.testBit_and,
        among bit List.mem_cons_self, Bool.and_true]

theorem testBit_engineEvents (bit : Nat) : Bits.engineEvents.toNat.testBit bit =
    [7, 12, 14, 15, 16, 17, 21, 26, 29].contains bit :=
  testBit_mask (by decide) (by decide) bit

theorem eventsTold_engineEvents (status : UInt64) :
    eventsTold (status &&& Bits.engineEvents) = eventsTold status := by
  unfold eventsTold
  rw [showsAny_and status _ (by decide), showsAny_and status _ (by decide),
    showsAny_and status _ (by decide), showsAny_and status _ (by decide)]

namespace Link

variable {slots size : Nat}

def observed (link : Link slots size) (phase : Phase) (flags : Status) : Link slots size :=
  { link with phase, status := link.status.insert flags }

inductive Feeding (link : Link slots size) (event : Event) : InterruptTurn slots size → Prop
  | passed {phase flags reaction}
      (moved : link.phase.onEvent event = (phase, flags, reaction))
      (idle : reaction = .nothing ∨ reaction = .spurious) :
      Feeding link event (.done (link.observed phase flags) (.ok ()))
  | signalled {phase flags} (moved : link.phase.onEvent event = (phase, flags, .signal)) :
      Feeding link event (.done (link.observed phase flags).signal (.ok ()))
  | copying {phase flags slot} (moved : link.phase.onEvent event = (phase, flags, .copy slot)) :
      Feeding link event (.next (link.observed phase flags) (.copyLock slot))
  | released {phase flags slot}
      (moved : link.phase.onEvent event = (phase, flags, .release slot)) :
      Feeding link event
        (.done ((link.observed phase flags).releaseSlot slot).signal (.ok ()))
  | drained {phase flags slot}
      (moved : link.phase.onEvent event = (phase, flags, .drain slot)) :
      Feeding link event (.done ((link.observed phase flags).releaseSlot? slot) (.ok ()))

theorem feed_turns (link : Link slots size) (event : Event) :
    Feeding link event (link.feed event) := by
  unfold feed observe
  cases moved : link.phase.onEvent event with
  | mk phase rest =>
      obtain ⟨flags, reaction⟩ := rest
      cases reaction with
      | nothing => exact .passed moved (.inl rfl)
      | signal => exact .signalled moved
      | copy slot => exact .copying moved
      | release slot => exact .released moved
      | drain slot => exact .drained moved
      | spurious => exact .passed moved (.inr rfl)

/-- What becomes of events that are fed in one after the other. Only the last can
lead to a copy. -/
inductive FeedingAll : Link slots size → List Event → InterruptTurn slots size → Prop
  | nil {link} : FeedingAll link [] (.done link (.ok ()))
  | last {link event turn} (fed : Feeding link event turn) : FeedingAll link [event] turn
  | cons {link first next events turn} (fed : Feeding link first (.done next (.ok ())))
      (later : FeedingAll next events turn) : FeedingAll link (first :: events) turn

theorem feed_sent_done (link : Link slots size) :
    ∃ next, link.feed .sent = .done next (.ok ()) := by
  unfold feed observe
  cases link.phase with
  | idle => exact ⟨_, rfl⟩
  | sending slot => cases slot <;> exact ⟨_, rfl⟩
  | waitingResponse slot => exact ⟨_, rfl⟩
  | delivering => exact ⟨_, rfl⟩
  | finished outcome => exact ⟨_, rfl⟩
  | abandoned slot => cases slot <;> exact ⟨_, rfl⟩

theorem feedReception_turns (link : Link slots size) (pending : UInt64) :
    FeedingAll link (receptionEvent? pending).toList
      (match receptionEvent? pending with
        | some event => link.feed event
        | none => .done link (.ok ())) := by
  cases receptionEvent? pending with
  | none => exact .nil
  | some event => exact .last (feed_turns link event)

theorem feedPending_turns (link : Link slots size) (pending : UInt64) :
    FeedingAll link (eventsTold pending) (link.feedPending pending) := by
  rw [eventsTold_eq]
  unfold feedPending
  cases sent : pendingIn pending Bits.frameSent with
  | false => exact feedReception_turns link pending
  | true =>
      obtain ⟨next, fed⟩ := link.feed_sent_done
      have turned := feed_turns link .sent
      rw [fed] at turned
      simp only [if_true, fed]
      exact .cons turned (feedReception_turns next pending)

def copyOutcome (copied : Except (Error BusFault) Bool) : Outcome :=
  match copied with
  | .ok true => .completed
  | _ => .receiveFault

/-- How a copy ends that has its frame, or has failed to get it. -/
inductive CopyEnding (link : Link slots size) (slot : Slot)
    (copied : Except (Error BusFault) Bool) : InterruptTurn slots size → Prop
  | stale {next} (other : link.finishCopy (copyOutcome copied) = (false, next)) :
      CopyEnding link slot copied
        (.done (next.releaseSlot slot) (copied.map fun _ => ()))
  | handover {next} (current : link.finishCopy (copyOutcome copied) = (true, next))
      (good : copied = .ok true) (transfers : next.handler = .transfer) :
      CopyEnding link slot copied (.next next.signal (.handover slot))
  | queued {next} (current : link.finishCopy (copyOutcome copied) = (true, next))
      (good : copied = .ok true) (ranges : next.handler = .ranging) :
      CopyEnding link slot copied
        (.done (next.signal.enqueue slot) (copied.map fun _ => ()))
  | dropped {next} (current : link.finishCopy (copyOutcome copied) = (true, next))
      (unwanted : copied ≠ .ok true ∨ next.handler = .ping) :
      CopyEnding link slot copied
        (.done (next.signal.releaseSlot slot) (copied.map fun _ => ()))

theorem endCopy_eq (link : Link slots size) (slot : Slot)
    (copied : Except (Error BusFault) Bool) : link.endCopy slot copied =
      match link.finishCopy (copyOutcome copied) with
      | (false, link) => .done (link.releaseSlot slot) (copied.map fun _ => ())
      | (true, link) =>
          match copied with
          | .ok true =>
              match link.signal.handler with
              | .transfer => .next link.signal (.handover slot)
              | .ranging => .done (link.signal.enqueue slot) (copied.map fun _ => ())
              | .ping => .done (link.signal.releaseSlot slot) (copied.map fun _ => ())
          | _ => .done (link.signal.releaseSlot slot) (copied.map fun _ => ()) :=
  rfl

theorem endCopy_turns (link : Link slots size) (slot : Slot)
    (copied : Except (Error BusFault) Bool) :
    CopyEnding link slot copied (link.endCopy slot copied) := by
  rw [endCopy_eq]
  cases ended : link.finishCopy (copyOutcome copied) with
  | mk current next =>
      cases current with
      | false => exact .stale ended
      | true =>
          dsimp only
          split
          · split
            · rename_i transfers
              exact .handover ended rfl transfers
            · rename_i ranges
              exact .queued ended rfl ranges
            · rename_i pings
              exact .dropped ended (.inr pings)
          · rename_i failed
            exact .dropped ended (.inl failed)

def copiedInto (link : Link slots size) (slot : Slot) (buffer : Buffer size) : Link slots size :=
  { link.releaseRegisters with pool := (link.pool.setLock slot Lock.free).setBuffer slot buffer }

/-- How one step of the event side turns out. -/
inductive InterruptTurns (link : Link slots size) (self : TaskId) :
    InterruptPoint → InterruptTurn slots size → Prop
  | wait {point} : InterruptTurns link self point .wait
  | event {event turn} (fed : Feeding link event turn) :
      InterruptTurns link self (.event event) turn
  | statusLock (free : link.registers.isFree = true) :
      InterruptTurns link self .statusLock
        (.next { link with registers := Lock.heldBy self } .readStatus)
  | readFailed {fault bus}
      (performed : Register.systemStatus.read.perform link.bus = (.error fault, bus)) :
      InterruptTurns link self .readStatus
        (.done { link with bus }.releaseRegisters (.error (.bus fault)))
  | nothingPending {status bus}
      (performed : Register.systemStatus.read.perform link.bus = (.ok status, bus))
      (none : status &&& Bits.engineEvents = 0) :
      InterruptTurns link self .readStatus (.done { link with bus }.releaseRegisters (.ok ()))
  | pending {status bus}
      (performed : Register.systemStatus.read.perform link.bus = (.ok status, bus))
      (some : status &&& Bits.engineEvents ≠ 0) :
      InterruptTurns link self .readStatus
        (.next { link with bus } (.clearStatus (status &&& Bits.engineEvents)))
  | clearFailed {pending fault bus}
      (performed : (Register.systemStatus.write pending).perform link.bus =
        (.error fault, bus)) :
      InterruptTurns link self (.clearStatus pending)
        (.done { link with bus }.releaseRegisters (.error (.bus fault)))
  | cleared {pending bus turn}
      (performed : (Register.systemStatus.write pending).perform link.bus = (.ok (), bus))
      (fed : FeedingAll { link with bus }.releaseRegisters (eventsTold pending) turn) :
      InterruptTurns link self (.clearStatus pending) turn
  | copyLock {slot} (free : link.registers.isFree = true) :
      InterruptTurns link self (.copyLock slot)
        (.next { link with registers := Lock.heldBy self } (.readLength slot))
  | lengthFailed {slot fault bus turn}
      (performed : Register.receiveInfo.read.perform link.bus = (.error fault, bus))
      (ended : CopyEnding { link with bus }.releaseRegisters slot (.error (.bus fault)) turn) :
      InterruptTurns link self (.readLength slot) turn
  | length {slot info bus}
      (performed : Register.receiveInfo.read.perform link.bus = (.ok info, bus)) :
      InterruptTurns link self (.readLength slot)
        (.next { link with bus } (.bufferLock slot (receivedLength info)))
  | tooLong {slot length turn} (free : link.pool.accessible slot = true)
      (refused : ((link.pool.buffer? slot).bind fun buffer => buffer.claim? length) = none)
      (ended : CopyEnding link.releaseRegisters slot (.ok false) turn) :
      InterruptTurns link self (.bufferLock slot length) turn
  | bufferLock {slot length buffer} (free : link.pool.accessible slot = true)
      (claimed : ((link.pool.buffer? slot).bind fun buffer => buffer.claim? length) =
        some buffer) :
      InterruptTurns link self (.bufferLock slot length)
        (.next { link with pool :=
            (link.pool.setBuffer slot buffer).setLock slot (Lock.heldBy self) }
          (.readFrame slot length))
  | frameFailed {slot length fault bus turn}
      (performed : (Register.receiveBuffer.readPart 0 length).perform link.bus =
        (.error fault, bus))
      (ended : CopyEnding
        { link with bus, pool := link.pool.setLock slot Lock.free }.releaseRegisters slot
        (.error (.bus fault)) turn) :
      InterruptTurns link self (.readFrame slot length) turn
  | unbuffered {slot length bytes bus turn}
      (performed : (Register.receiveBuffer.readPart 0 length).perform link.bus =
        (.ok bytes, bus))
      (missing : (link.pool.setLock slot Lock.free).buffer? slot = none)
      (ended : CopyEnding
        { link with bus, pool := link.pool.setLock slot Lock.free }.releaseRegisters slot
        (.ok false) turn) :
      InterruptTurns link self (.readFrame slot length) turn
  | refused {slot length bytes bus buffer turn}
      (performed : (Register.receiveBuffer.readPart 0 length).perform link.bus =
        (.ok bytes, bus))
      (found : (link.pool.setLock slot Lock.free).buffer? slot = some buffer)
      (foreign : decodeFrame? (buffer.load bytes).contents = none)
      (ended : CopyEnding ({ link with bus }.copiedInto slot (buffer.load bytes)) slot
        (.ok false) turn) :
      InterruptTurns link self (.readFrame slot length) turn
  | accepted {slot length bytes bus buffer frame turn}
      (performed : (Register.receiveBuffer.readPart 0 length).perform link.bus =
        (.ok bytes, bus))
      (found : (link.pool.setLock slot Lock.free).buffer? slot = some buffer)
      (decoded : decodeFrame? (buffer.load bytes).contents = some frame)
      (ended : CopyEnding
        ({ link with bus }.copiedInto slot
          ((buffer.load bytes).advance (length - frame.payload.length))) slot
        (.ok true) turn) :
      InterruptTurns link self (.readFrame slot length) turn
  | handover {slot} (free : link.pool.accessible slot = true) :
      InterruptTurns link self (.handover slot) (.done (link.deliver slot) (.ok ()))

theorem interruptStep_turns (link : Link slots size) (self : TaskId) (point : InterruptPoint) :
    InterruptTurns link self point (link.interruptStep self point) := by
  cases point with
  | event event => exact .event (feed_turns link event)
  | statusLock =>
      rw [interruptStep]
      split
      · rename_i free
        exact .statusLock free
      · exact .wait
  | readStatus =>
      rw [interruptStep]
      split
      · exact .wait
      · rw [perform_eq]
        cases performed : Register.systemStatus.read.perform link.bus with
        | mk result bus =>
            cases result with
            | error fault => exact .readFailed performed
            | ok status =>
                simp only [mapError_ok]
                split
                · rename_i none
                  exact .nothingPending performed none
                · rename_i some
                  exact .pending performed some
  | clearStatus pending =>
      rw [interruptStep]
      split
      · exact .wait
      · rw [perform_eq]
        cases performed : (Register.systemStatus.write pending).perform link.bus with
        | mk result bus =>
            cases result with
            | error fault => exact .clearFailed performed
            | ok written => exact .cleared performed (feedPending_turns _ pending)
  | copyLock slot =>
      rw [interruptStep]
      split
      · rename_i free
        exact .copyLock free
      · exact .wait
  | readLength slot =>
      rw [interruptStep]
      split
      · exact .wait
      · rw [perform_eq]
        cases performed : Register.receiveInfo.read.perform link.bus with
        | mk result bus =>
            cases result with
            | error fault => exact .lengthFailed performed (endCopy_turns _ slot _)
            | ok info => exact .length performed
  | bufferLock slot length =>
      rw [interruptStep]
      split
      · rename_i free
        split
        · rename_i refused
          exact .tooLong free refused (endCopy_turns _ slot _)
        · rename_i buffer claimed
          exact .bufferLock free claimed
      · exact .wait
  | readFrame slot length =>
      rw [interruptStep]
      split
      · exact .wait
      · rw [perform_eq]
        cases performed : (Register.receiveBuffer.readPart 0 length).perform link.bus with
        | mk result bus =>
            cases result with
            | error fault => exact .frameFailed performed (endCopy_turns _ slot _)
            | ok bytes =>
                simp only [mapError_ok]
                unfold acceptFrame
                dsimp only
                split
                · rename_i missing
                  exact .unbuffered performed missing (endCopy_turns _ slot _)
                · rename_i buffer found
                  split
                  · rename_i foreign
                    exact .refused performed found foreign (endCopy_turns _ slot _)
                  · rename_i frame decoded
                    exact .accepted performed found decoded (endCopy_turns _ slot _)
  | handover slot =>
      rw [interruptStep]
      split
      · rename_i free
        exact .handover free
      · exact .wait

theorem interruptTurns_of_eq {link : Link slots size} {self : TaskId} {point : InterruptPoint}
    {turn : InterruptTurn slots size} (stepped : link.interruptStep self point = turn) :
    InterruptTurns link self point turn := by
  rw [← stepped]
  exact interruptStep_turns link self point

/-- The fields that only a caller changes are as they were. -/
structure SparesCaller (link after : Link slots size) : Prop where
  gate : after.gate = link.gate
  sequence : after.sequence = link.sequence
  last : after.last = link.last
  info : after.info = link.info

structure SparesBus (link after : Link slots size) : Prop extends SparesCaller link after where
  bus : after.bus = link.bus
  registers : after.registers = link.registers

theorem SparesBus.trans {link middle after : Link slots size} (first : SparesBus link middle)
    (second : SparesBus middle after) : SparesBus link after := by
  constructor
  · constructor
    · exact second.gate.trans first.gate
    · exact second.sequence.trans first.sequence
    · exact second.last.trans first.last
    · exact second.info.trans first.info
  · exact second.bus.trans first.bus
  · exact second.registers.trans first.registers

theorem SparesBus.signal {link after : Link slots size} (spared : SparesBus link after) :
    SparesBus link after.signal :=
  ⟨⟨spared.gate, spared.sequence, spared.last, spared.info⟩, spared.bus, spared.registers⟩

theorem sparesBus_releaseSlot? (link : Link slots size) (slot : Option Slot) :
    SparesBus link (link.releaseSlot? slot) := by
  cases slot <;> exact ⟨⟨rfl, rfl, rfl, rfl⟩, rfl, rfl⟩

theorem sparesBus_finishCopy (link : Link slots size) (outcome : Outcome) :
    SparesBus link (link.finishCopy outcome).2 := by
  unfold finishCopy
  split <;> exact ⟨⟨rfl, rfl, rfl, rfl⟩, rfl, rfl⟩

theorem sparesBus_enqueue (link : Link slots size) (slot : Slot) :
    SparesBus link (link.enqueue slot) := by
  unfold enqueue
  split <;> exact ⟨⟨rfl, rfl, rfl, rfl⟩, rfl, rfl⟩

theorem Feeding.sparesBus {link : Link slots size} {event : Event}
    {turn : InterruptTurn slots size} (fed : Feeding link event turn) :
    turn.Leaves (SparesBus link) := by
  cases fed with
  | @drained phase flags slot moved =>
      have observed : SparesBus link (link.observed phase flags) := ⟨⟨rfl, rfl, rfl, rfl⟩, rfl, rfl⟩
      exact observed.trans (sparesBus_releaseSlot? _ slot)
  | _ => exact ⟨⟨rfl, rfl, rfl, rfl⟩, rfl, rfl⟩

theorem FeedingAll.sparesBus {link : Link slots size} {events : List Event}
    {turn : InterruptTurn slots size} (fed : FeedingAll link events turn) :
    turn.Leaves (SparesBus link) := by
  induction fed with
  | nil => exact ⟨⟨rfl, rfl, rfl, rfl⟩, rfl, rfl⟩
  | last fed => exact fed.sparesBus
  | cons fed later ih =>
      have first : SparesBus _ _ := fed.sparesBus
      exact ih.mono fun after second => first.trans second

theorem CopyEnding.sparesBus {link : Link slots size} {slot : Slot}
    {copied : Except (Error BusFault) Bool} {turn : InterruptTurn slots size}
    (ended : CopyEnding link slot copied turn) : turn.Leaves (SparesBus link) := by
  have finished := sparesBus_finishCopy link (copyOutcome copied)
  cases ended with
  | @stale next other =>
      rw [other] at finished
      exact finished.trans (sparesBus_releaseSlot? next (some slot))
  | handover current =>
      rw [current] at finished
      exact finished.signal
  | @queued next current =>
      rw [current] at finished
      exact finished.signal.trans (sparesBus_enqueue next.signal slot)
  | @dropped next current =>
      rw [current] at finished
      exact finished.signal.trans (sparesBus_releaseSlot? next.signal (some slot))

/-- Events and copies, late ones too, leave to a caller what is its own. -/
theorem InterruptTurns.sparesCaller {link : Link slots size} {self : TaskId}
    {point : InterruptPoint} {turn : InterruptTurn slots size}
    (turns : InterruptTurns link self point turn) : turn.Leaves (SparesCaller link) := by
  have ends {middle : Link slots size} {slot : Slot} {copied : Except (Error BusFault) Bool}
      (ended : CopyEnding middle slot copied turn) (same : SparesCaller link middle) :
      turn.Leaves (SparesCaller link) := by
    refine ended.sparesBus.mono fun after spared => ?_
    exact ⟨spared.gate.trans same.gate, spared.sequence.trans same.sequence,
      spared.last.trans same.last, spared.info.trans same.info⟩
  cases turns with
  | wait => trivial
  | event fed => exact fed.sparesBus.mono fun after spared => spared.toSparesCaller
  | cleared performed fed =>
      refine fed.sparesBus.mono fun after spared => ?_
      exact ⟨spared.gate, spared.sequence, spared.last, spared.info⟩
  | lengthFailed performed ended => exact ends ended ⟨rfl, rfl, rfl, rfl⟩
  | tooLong free refused ended => exact ends ended ⟨rfl, rfl, rfl, rfl⟩
  | frameFailed performed ended => exact ends ended ⟨rfl, rfl, rfl, rfl⟩
  | unbuffered performed missing ended => exact ends ended ⟨rfl, rfl, rfl, rfl⟩
  | refused performed found foreign ended => exact ends ended ⟨rfl, rfl, rfl, rfl⟩
  | accepted performed found decoded ended => exact ends ended ⟨rfl, rfl, rfl, rfl⟩
  | _ => exact ⟨rfl, rfl, rfl, rfl⟩

end Link

end UwbRadio
