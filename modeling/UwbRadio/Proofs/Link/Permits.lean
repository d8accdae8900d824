import UwbRadio.Proofs.Link.Caller
import UwbRadio.Proofs.Link.Interrupt
import UwbRadio.Proofs.Pool.Permits

/-!
The account of the pool along the steps of a link. Reservations and releases are all
that a step does to the permits and to the reserved buffers.
-/

namespace UwbRadio

namespace Link

variable {slots size : Nat} {link : Link slots size} {id : TaskId}

theorem accounted_releaseSlot? (link : Link slots size) (accounted : link.pool.Accounted)
    (slot : Option Slot) : (link.releaseSlot? slot).pool.Accounted := by
  cases slot with
  | none => exact accounted
  | some slot => exact accounted.release slot

theorem accounted_entered (link : Link slots size) (accounted : link.pool.Accounted)
    (id : TaskId) :
    (link.entered id).pool.Accounted :=
  accounted_releaseSlot? { link with gate := Lock.heldBy id, phase := .idle } accounted
    link.phase.slot?

theorem accounted_failed (link : Link slots size) (accounted : link.pool.Accounted)
    (error : Error BusFault) (counted : Bool) : (link.failed error counted).pool.Accounted := by
  unfold failed abort
  cases error with
  | transmitFault =>
      cases held : link.phase.slot? with
      | none => simp only [releaseRegisters, held]; exact accounted
      | some slot => simp only [releaseRegisters, held]; exact accounted.release slot
  | _ => exact accounted

theorem accounted_conclude (link : Link slots size) (accounted : link.pool.Accounted)
    (outcome : Outcome) (counted : Bool) : (link.conclude outcome counted).2.pool.Accounted := by
  cases outcome <;> exact accounted

theorem accounted_abandon (link : Link slots size) (accounted : link.pool.Accounted) :
    link.abandon.2.pool.Accounted := by
  unfold abandon
  split <;> exact accounted

theorem Preparation.accounted {exchange : Exchange} {turn : CallerTurn slots size}
    (prepared : Preparation link exchange turn) (accounted : link.pool.Accounted) :
    turn.Leaves fun after => after.pool.Accounted := by
  cases prepared <;> exact accounted

theorem CallerTurns.accounted {exchange : Exchange} {point : CallerPoint}
    {turn : CallerTurn slots size} (turns : CallerTurns link id exchange point turn)
    (accounted : link.pool.Accounted) : turn.Leaves fun after => after.pool.Accounted := by
  have reserved {found : Option Slot} {pool : Pool slots size}
      (reserves : link.pool.reserve = (found, pool)) : pool.Accounted := by
    have kept := accounted.reserve
    rw [reserves] at kept
    exact kept
  cases turns with
  | wait => trivial
  | silence => exact accounted_entered link accounted id
  | enter free settled prepared => exact prepared.accounted (accounted_entered link accounted id)
  | silenced performed prepared => exact prepared.accounted accounted
  | begin reserves => exact reserved reserves
  | starved exhausted => exact reserved exhausted
  | reserving exhausted => exact reserved exhausted
  | @startFailed _ _ _ bus => exact accounted_failed { link with bus } accounted _ _
  | @checkFailed _ _ bus => exact accounted_failed { link with bus } accounted _ _
  | @cancelFailed _ _ bus => exact accounted_failed { link with bus } accounted _ _
  | @cancelled _ bus => exact accounted_failed { link with bus } accounted _ _
  | finished =>
      exact accounted_conclude { link with completion := false, phase := .idle } accounted _ _
  | abandoned => exact accounted_conclude _ (accounted_abandon link accounted) _ _
  | _ => exact accounted

theorem Feeding.accounted {event : Event} {turn : InterruptTurn slots size}
    (fed : Feeding link event turn) (accounted : link.pool.Accounted) :
    turn.Leaves fun after => after.pool.Accounted := by
  cases fed with
  | @released phase flags slot moved => exact accounted.release slot
  | @drained phase flags slot moved =>
      exact accounted_releaseSlot? (link.observed phase flags) accounted slot
  | _ => exact accounted

theorem FeedingAll.accounted {events : List Event} {turn : InterruptTurn slots size}
    (fed : FeedingAll link events turn) (accounted : link.pool.Accounted) :
    turn.Leaves fun after => after.pool.Accounted := by
  induction fed with
  | nil => exact accounted
  | last fed => exact fed.accounted accounted
  | cons fed later ih => exact ih (fed.accounted accounted)

theorem CopyEnding.accounted {slot : Slot} {copied : Except (Error BusFault) Bool}
    {turn : InterruptTurn slots size} (ended : CopyEnding link slot copied turn)
    (accounted : link.pool.Accounted) : turn.Leaves fun after => after.pool.Accounted := by
  have finished : (link.finishCopy (copyOutcome copied)).2.pool.Accounted := by
    unfold finishCopy
    split <;> exact accounted
  cases ended with
  | stale other =>
      rw [other] at finished
      exact finished.release slot
  | handover current =>
      rw [current] at finished
      exact finished
  | queued current =>
      rw [current] at finished
      unfold enqueue
      split
      · exact finished
      · exact finished.release slot
  | dropped current =>
      rw [current] at finished
      exact finished.release slot

theorem InterruptTurns.accounted {point : InterruptPoint} {turn : InterruptTurn slots size}
    (turns : InterruptTurns link id point turn) (accounted : link.pool.Accounted) :
    turn.Leaves fun after => after.pool.Accounted := by
  cases turns with
  | wait => trivial
  | event fed => exact fed.accounted accounted
  | cleared performed fed => exact fed.accounted accounted
  | lengthFailed performed ended => exact ended.accounted accounted
  | tooLong free refused ended => exact ended.accounted accounted
  | frameFailed performed ended => exact ended.accounted accounted
  | unbuffered performed missing ended => exact ended.accounted accounted
  | refused performed found foreign ended => exact ended.accounted accounted
  | accepted performed found decoded ended => exact ended.accounted accounted
  | @handover slot free => exact accounted.release slot
  | _ => exact accounted

end Link

end UwbRadio
