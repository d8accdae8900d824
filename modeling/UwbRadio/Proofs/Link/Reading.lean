import UwbRadio.Proofs.Bus.Reads
import UwbRadio.Proofs.Link.Copy
import UwbRadio.Proofs.Pool.Ownership

/-!
What the copy of a frame finds. `Link.finds?` says it by the device and the size of the
buffers alone: the length that the device tells, and the bytes that it gives. The copy
agrees with this because it has the buffer to itself while it reads: it holds the lock
of the buffer, and whoever else wants to write there has to wait.
-/

namespace UwbRadio

theorem Buffer.contents_load {size : Nat} {buffer : Buffer size} {bytes : Bytes}
    (fits : bytes.length = buffer.used) : (buffer.load bytes).contents = bytes := by
  have whole : bytes.take buffer.used = bytes := by rw [← fits, List.take_length]
  have loaded : (buffer.load bytes).data = bytes ++ buffer.data.drop (0 + bytes.length) :=
    congrArg (Bytes.overwrite buffer.data 0) whole
  rw [contents, loaded]
  exact List.take_left' fits

theorem Buffer.claim?_eq_some {size length : Nat} {buffer claimed : Buffer size}
    (claims : buffer.claim? length = some claimed) : length ≤ size ∧ claimed.used = length := by
  unfold claim? at claims
  split at claims
  · rename_i fits
    cases claims
    exact ⟨fits, rfl⟩
  · cases claims

theorem Buffer.claim?_eq_none {size length : Nat} {buffer : Buffer size}
    (refused : buffer.claim? length = none) : ¬ length ≤ size := by
  unfold claim? at refused
  split at refused
  · cases refused
  · assumption

namespace Pool

variable {slots size : Nat} {pool after : Pool slots size}

/-- The buffers and the locks are as they were; who owns which may differ. -/
structure SameBytes (pool after : Pool slots size) : Prop where
  buffers : after.buffers = pool.buffers
  locks : after.locks = pool.locks

theorem SameBytes.trans {middle : Pool slots size} (first : pool.SameBytes middle)
    (second : middle.SameBytes after) : pool.SameBytes after :=
  ⟨second.buffers.trans first.buffers, second.locks.trans first.locks⟩

theorem sameBytes_release (pool : Pool slots size) (slot : Slot) :
    pool.SameBytes (pool.release slot) := by
  unfold release
  split <;> exact ⟨rfl, rfl⟩

theorem claim?_sameBytes {slot : Slot} (claimed : pool.claim? = some (slot, after)) :
    pool.SameBytes after := by
  obtain ⟨index, _, same⟩ := Option.map_eq_some_iff.mp claimed
  cases same
  exact ⟨rfl, rfl⟩

theorem Attempts.sameBytes {found : Option Slot} (attempts : pool.Attempts found after) :
    pool.SameBytes after := by
  cases attempts with
  | claims claimed =>
      have same := claim?_sameBytes claimed
      exact ⟨same.buffers, same.locks⟩
  | fails => exact ⟨rfl, rfl⟩

theorem lt_of_accessible {slot : Slot} (free : pool.accessible slot = true) :
    slot.index < slots := by
  by_cases inside : slot.index < slots
  · exact inside
  · rw [accessible, Vector.getElem?_eq_none (Nat.le_of_not_lt inside)] at free
    cases free

theorem unlocked_of_accessible {slot : Slot} {id : TaskId} (free : pool.accessible slot = true) :
    pool.locks[slot.index]? ≠ some (Lock.heldBy id) := by
  intro locked
  rw [accessible, locked] at free
  cases free

end Pool

namespace Link

variable {slots size : Nat} {link after : Link slots size}

/-- The next step of a copy, if it shows what the copy has found: whether there is a
frame for the link that fits the buffer, and could be read. -/
def finds? (link : Link slots size) : InterruptPoint → Option Bool
  | .readLength _ =>
      match (Register.receiveInfo.read.perform link.bus).1 with
      | .ok _ => none
      | .error _ => some false
  | .bufferLock _ length => if length ≤ size then none else some false
  | .readFrame _ length =>
      match ((Register.receiveBuffer.readPart 0 length).perform link.bus).1 with
      | .ok bytes => some (decodeFrame? bytes).isSome
      | .error _ => some false
  | _ => none

/-- The task has the bytes of the buffer to itself, and has claimed `length` of them. -/
structure Claimed (link : Link slots size) (id : TaskId) (slot : Slot) (length : Nat) : Prop where
  locked : link.pool.locks[slot.index]? = some (Lock.heldBy id)
  claimed : ∃ buffer, link.pool.buffer? slot = some buffer ∧ buffer.used = length

def ClaimedAt (link : Link slots size) (id : TaskId) : InterruptPoint → Prop
  | .readFrame slot length => link.Claimed id slot length
  | _ => True

theorem Claimed.same {id : TaskId} {slot : Slot} {length : Nat}
    (claimed : link.Claimed id slot length)
    (same : link.pool.SameBytes after.pool) : after.Claimed id slot length where
  locked := by rw [same.locks]; exact claimed.locked
  claimed := by
    rw [Pool.buffer?, same.buffers]
    exact claimed.claimed

theorem ClaimedAt.same {id : TaskId} {point : InterruptPoint} (claimed : link.ClaimedAt id point)
    (same : link.pool.SameBytes after.pool) : after.ClaimedAt id point := by
  cases point with
  | readFrame slot length => exact Claimed.same claimed same
  | _ => trivial

theorem claimedAt_of_slot? {id : TaskId} {point : InterruptPoint} (empty : point.slot? = none) :
    link.ClaimedAt id point := by
  cases point with
  | readFrame slot length => cases empty
  | _ => trivial

theorem sameBytes_releaseSlot? (link : Link slots size) (slot : Option Slot) :
    link.pool.SameBytes (link.releaseSlot? slot).pool := by
  cases slot with
  | none => exact ⟨rfl, rfl⟩
  | some slot => exact Pool.sameBytes_release link.pool slot

theorem sameBytes_entered (link : Link slots size) (id : TaskId) :
    link.pool.SameBytes (link.entered id).pool :=
  sameBytes_releaseSlot? { link with gate := Lock.heldBy id, phase := .idle } link.phase.slot?

theorem sameBytes_failed (link : Link slots size) (error : Error BusFault) (counted : Bool) :
    link.pool.SameBytes (link.failed error counted).pool := by
  unfold failed abort
  cases error with
  | transmitFault =>
      cases held : link.phase.slot? with
      | none => simp only [releaseRegisters, held]; exact ⟨rfl, rfl⟩
      | some slot =>
          simp only [releaseRegisters, held]
          exact Pool.sameBytes_release link.pool slot
  | _ => exact ⟨rfl, rfl⟩

theorem sameBytes_conclude (link : Link slots size) (outcome : Outcome) (counted : Bool) :
    link.pool.SameBytes (link.conclude outcome counted).2.pool := by
  cases outcome <;> exact ⟨rfl, rfl⟩

theorem sameBytes_abandon (link : Link slots size) : link.pool.SameBytes link.abandon.2.pool := by
  unfold abandon
  split <;> exact ⟨rfl, rfl⟩

theorem Preparation.sameBytes {exchange : Exchange} {turn : CallerTurn slots size}
    (prepared : Preparation link exchange turn) :
    turn.Leaves fun after => link.pool.SameBytes after.pool := by
  cases prepared <;> exact ⟨rfl, rfl⟩

theorem CallerTurns.sameBytes {exchange : Exchange} {id : TaskId} {point : CallerPoint}
    {turn : CallerTurn slots size} (turns : CallerTurns link id exchange point turn) :
    turn.Leaves fun after => link.pool.SameBytes after.pool := by
  have reserved {found : Option Slot} {pool : Pool slots size}
      (reserves : link.pool.reserve = (found, pool)) : link.pool.SameBytes pool :=
    (Pool.attempts_of_reserve reserves).sameBytes
  have fails (bus : Bus) (error : Error BusFault) :
      link.pool.SameBytes ({ link with bus }.failed error exchange.counted).pool :=
    sameBytes_failed { link with bus } error exchange.counted
  cases turns with
  | wait => trivial
  | silence => exact sameBytes_entered link id
  | enter free settled prepared =>
      exact prepared.sameBytes.mono fun after same => (sameBytes_entered link id).trans same
  | silenced performed prepared => exact prepared.sameBytes
  | begin reserves =>
      have same := reserved reserves
      exact ⟨same.buffers, same.locks⟩
  | starved exhausted =>
      have same := reserved exhausted
      exact ⟨same.buffers, same.locks⟩
  | reserving exhausted => exact reserved exhausted
  | startFailed => exact fails _ _
  | checkFailed => exact fails _ _
  | cancelFailed => exact fails _ _
  | cancelled => exact fails _ _
  | @finished deadline outcome =>
      exact sameBytes_conclude { link with completion := false, phase := .idle } outcome _
  | abandoned => exact (sameBytes_abandon link).trans (sameBytes_conclude _ _ _)
  | _ => exact ⟨rfl, rfl⟩

theorem sameBytes_finishCopy (link : Link slots size) (outcome : Outcome) :
    link.pool.SameBytes (link.finishCopy outcome).2.pool := by
  unfold finishCopy
  split <;> exact ⟨rfl, rfl⟩

theorem sameBytes_enqueue (link : Link slots size) (slot : Slot) :
    link.pool.SameBytes (link.enqueue slot).pool := by
  unfold enqueue
  split
  · exact ⟨rfl, rfl⟩
  · exact Pool.sameBytes_release link.pool slot

theorem CopyEnding.sameBytes {slot : Slot} {copied : Except (Error BusFault) Bool}
    {turn : InterruptTurn slots size} (ended : CopyEnding link slot copied turn) :
    turn.Leaves fun after => link.pool.SameBytes after.pool := by
  have finished := sameBytes_finishCopy link (copyOutcome copied)
  cases ended with
  | stale other =>
      rw [other] at finished
      exact finished.trans (Pool.sameBytes_release _ slot)
  | handover current =>
      rw [current] at finished
      exact ⟨finished.buffers, finished.locks⟩
  | @queued next current =>
      rw [current] at finished
      exact finished.trans (sameBytes_enqueue next.signal slot)
  | dropped current =>
      rw [current] at finished
      exact finished.trans (Pool.sameBytes_release _ slot)

theorem Feeding.sameBytes {event : Event} {turn : InterruptTurn slots size}
    (fed : Feeding link event turn) : turn.Leaves fun after => link.pool.SameBytes after.pool := by
  cases fed with
  | released => exact Pool.sameBytes_release _ _
  | @drained phase flags slot => exact sameBytes_releaseSlot? (link.observed phase flags) slot
  | _ => exact ⟨rfl, rfl⟩

theorem FeedingAll.sameBytes {events : List Event} {turn : InterruptTurn slots size}
    (fed : FeedingAll link events turn) :
    turn.Leaves fun after => link.pool.SameBytes after.pool := by
  induction fed with
  | nil => exact ⟨rfl, rfl⟩
  | last fed => exact fed.sameBytes
  | @cons link first next events turn fed later ih =>
      have before : link.pool.SameBytes next.pool := fed.sameBytes
      exact ih.mono fun after same => before.trans same

theorem Feeding.goes_on {id : TaskId} {event : Event} {later : InterruptPoint}
    (fed : Feeding link event (.next after later)) : after.ClaimedAt id later := by
  cases fed
  trivial

theorem FeedingAll.goes_on {id : TaskId} {events : List Event} {later : InterruptPoint}
    (fed : FeedingAll link events (.next after later)) : after.ClaimedAt id later := by
  generalize went : (Turn.next after later : InterruptTurn slots size) = turn at fed
  induction fed with
  | nil => cases went
  | last fed => subst went; exact fed.goes_on
  | cons fed more ih => exact ih went

section claims

variable {id owner : TaskId} {slot : Slot} {length : Nat} {point : InterruptPoint}
  {turn : InterruptTurn slots size}

theorem Claimed.elsewhere {other : Slot} {lock : Lock} (claimed : link.Claimed owner slot length)
    (apart : other.index ≠ slot.index)
    (locks : after.pool.locks = link.pool.locks.setIfInBounds other.index lock)
    (buffers : after.pool.buffers = link.pool.buffers ∨
      ∃ buffer, after.pool.buffers = link.pool.buffers.setIfInBounds other.index buffer) :
    after.Claimed owner slot length where
  locked := by
    rw [locks]
    exact (Vector.getElem?_setIfInBounds_ne apart).trans claimed.locked
  claimed := by
    obtain ⟨found, claims, used⟩ := claimed.claimed
    refine ⟨found, ?_, used⟩
    rcases buffers with same | ⟨buffer, loaded⟩
    · rw [Pool.buffer?, same]
      exact claims
    · rw [Pool.buffer?, loaded]
      exact (Vector.getElem?_setIfInBounds_ne apart).trans claims

theorem InterruptTurns.keeps_claimed (turns : InterruptTurns link id point turn)
    (apart : id ≠ owner) (own : link.ClaimedAt id point)
    (claimed : link.Claimed owner slot length) :
    turn.Leaves fun after => after.Claimed owner slot length := by
  have differs {other : Slot} {count : Nat} (holds : link.Claimed id other count) :
      other.index ≠ slot.index := by
    intro same
    have locked := holds.locked
    rw [same, claimed.locked] at locked
    exact apart (Option.some.inj (congrArg Lock.holder (Option.some.inj locked))).symm
  have ends {middle : Link slots size} {other : Slot} {copied : Except (Error BusFault) Bool}
      (ended : CopyEnding middle other copied turn) (kept : middle.Claimed owner slot length) :
      turn.Leaves fun after => after.Claimed owner slot length :=
    ended.sameBytes.mono fun after same => kept.same same
  cases turns with
  | wait => trivial
  | event fed => exact fed.sameBytes.mono fun after same => claimed.same same
  | cleared performed fed =>
      refine fed.sameBytes.mono fun after same => claimed.same ?_
      exact ⟨same.buffers, same.locks⟩
  | lengthFailed performed ended => exact ends ended (claimed.same ⟨rfl, rfl⟩)
  | tooLong free refused ended => exact ends ended (claimed.same ⟨rfl, rfl⟩)
  | bufferLock free =>
      refine claimed.elsewhere ?_ rfl (.inr ⟨_, rfl⟩)
      intro same
      have locked := claimed.locked
      rw [← same] at locked
      exact Pool.unlocked_of_accessible free locked
  | frameFailed performed ended =>
      exact ends ended (claimed.elsewhere (differs own) rfl (.inl rfl))
  | unbuffered performed missing ended =>
      exact ends ended (claimed.elsewhere (differs own) rfl (.inl rfl))
  | refused performed found foreign ended =>
      exact ends ended (claimed.elsewhere (differs own) rfl (.inr ⟨_, rfl⟩))
  | accepted performed found decoded ended =>
      exact ends ended (claimed.elsewhere (differs own) rfl (.inr ⟨_, rfl⟩))
  | handover => exact claimed.same (Pool.sameBytes_release link.pool _)
  | _ => exact claimed.same ⟨rfl, rfl⟩

theorem InterruptTurns.claims {later : InterruptPoint}
    (turns : InterruptTurns link id point (.next after later)) : after.ClaimedAt id later := by
  cases turns with
  | event fed => exact fed.goes_on
  | cleared performed fed => exact fed.goes_on
  | bufferLock free claimed =>
      have inside := Pool.lt_of_accessible free
      constructor
      · exact Vector.getElem?_setIfInBounds_self_of_lt inside
      · obtain ⟨buffer, found, claims⟩ := Option.bind_eq_some_iff.mp claimed
        exact ⟨_, Vector.getElem?_setIfInBounds_self_of_lt inside, (Buffer.claim?_eq_some claims).2⟩
  | lengthFailed performed ended => cases ended; trivial
  | tooLong free refused ended => cases ended; trivial
  | frameFailed performed ended => cases ended; trivial
  | unbuffered performed missing ended => cases ended; trivial
  | refused performed found foreign ended => cases ended; trivial
  | accepted performed found decoded ended => cases ended; trivial
  | _ => trivial

end claims

theorem Claimed.contents_load {id : TaskId} {slot : Slot} {length : Nat} {buffer : Buffer size}
    {register : Register} {bus : Bus} {bytes : Bytes} (claimed : link.Claimed id slot length)
    (found : link.pool.buffer? slot = some buffer)
    (performed : (register.readPart 0 length).perform link.bus = (.ok bytes, bus)) :
    (buffer.load bytes).contents = bytes := by
  obtain ⟨mine, present, used⟩ := claimed.claimed
  rw [found] at present
  cases present
  exact Buffer.contents_load ((Register.readPart_length performed).trans used.symm)

/-- The step of a copy goes on until it shows what there is, and ends with just that. -/
theorem InterruptTurns.finds {id : TaskId} {point : InterruptPoint} {slot : Slot}
    {turn : InterruptTurn slots size} (turns : InterruptTurns link id point turn)
    (copies : point.copies? = some slot) (own : link.ClaimedAt id point) :
    turn = .wait ∨
      (∃ after later, turn = .next after later ∧ later.copies? = some slot ∧
        Agrees link after ∧ link.finds? point = none) ∨
      ∃ middle copied good, Agrees link middle ∧ CopyEnding middle slot copied turn ∧
        link.finds? point = some good ∧ (copied = .ok true ↔ good = true) := by
  cases turns with
  | wait => exact .inl rfl
  | event => cases copies
  | statusLock => cases copies
  | readFailed => cases copies
  | nothingPending => cases copies
  | pending => cases copies
  | clearFailed => cases copies
  | cleared => cases copies
  | handover => cases copies
  | copyLock =>
      cases copies
      exact .inr (.inl ⟨_, _, rfl, rfl, by constructor <;> rfl, rfl⟩)
  | length performed =>
      cases copies
      exact .inr (.inl ⟨_, _, rfl, rfl, by constructor <;> rfl, by rw [finds?, performed]⟩)
  | lengthFailed performed ended =>
      cases copies
      refine .inr (.inr ⟨_, _, false, ?_, ended, by rw [finds?, performed], by simp⟩)
      constructor <;> rfl
  | @bufferLock _ length buffer free claimed =>
      cases copies
      refine .inr (.inl ⟨_, _, rfl, rfl, by constructor <;> rfl, ?_⟩)
      obtain ⟨found, _, claims⟩ := Option.bind_eq_some_iff.mp claimed
      exact if_pos (Buffer.claim?_eq_some claims).1
  | @tooLong _ length _ free refused ended =>
      cases copies
      refine .inr (.inr ⟨_, _, false, by constructor <;> rfl, ended, ?_, by simp⟩)
      have inside := Pool.lt_of_accessible free
      have found : link.pool.buffer? slot = some link.pool.buffers[slot.index] :=
        Vector.getElem?_eq_getElem inside
      rw [found, Option.bind_some] at refused
      exact if_neg (Buffer.claim?_eq_none refused)
  | frameFailed performed ended =>
      cases copies
      refine .inr (.inr ⟨_, _, false, ?_, ended, by rw [finds?, performed], by simp⟩)
      constructor <;> rfl
  | unbuffered performed missing ended =>
      cases copies
      obtain ⟨buffer, found, _⟩ := own.claimed
      have same : link.pool.buffer? slot = none := missing
      rw [same] at found
      cases found
  | refused performed found foreign ended =>
      cases copies
      rw [own.contents_load found performed] at foreign
      refine .inr (.inr ⟨_, _, false, ?_, ended, ?_, by simp⟩)
      · constructor <;> rfl
      · rw [finds?, performed]
        exact congrArg (fun decoded => some decoded.isSome) foreign
  | accepted performed found decoded ended =>
      cases copies
      rw [own.contents_load found performed] at decoded
      refine .inr (.inr ⟨_, _, true, ?_, ended, ?_, by simp⟩)
      · constructor <;> rfl
      · rw [finds?, performed]
        exact congrArg (fun decoded => some decoded.isSome) decoded

end Link

end UwbRadio
