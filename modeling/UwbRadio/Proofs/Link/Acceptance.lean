import UwbRadio.Proofs.Link.Handover

/-!
Where the buffer of a copy goes. A copy that ends gives its buffer back unless its frame
is accepted; then the buffer goes the way of the handler and holds just the payload of
the frame. The bytes of all other buffers stay as they are.
-/

namespace UwbRadio

namespace Link

variable {slots size : Nat} {link after : Link slots size} {id : TaskId} {slot : Slot}
  {point : InterruptPoint} {turn : InterruptTurn slots size}

inductive Accepted (link : Link slots size) (slot : Slot) : InterruptTurn slots size → Prop
  | handover {next} (transfers : link.handler = .transfer) (queue : next.queue = link.queue)
      (pool : next.pool = link.pool) : Accepted link slot (.next next (.handover slot))
  | queued {next queue result} (ranges : link.handler = .ranging)
      (pushed : link.queue.push? ⟨slot⟩ = some queue) (queued : next.queue = queue)
      (pool : next.pool = link.pool) : Accepted link slot (.done next result)
  | refused {next result} (ranges : link.handler = .ranging)
      (closed : link.queue.push? ⟨slot⟩ = none) (queue : next.queue = link.queue)
      (pool : next.pool = link.pool.release slot) : Accepted link slot (.done next result)
  | answered {next result} (pings : link.handler = .ping) (queue : next.queue = link.queue)
      (pool : next.pool = link.pool.release slot) : Accepted link slot (.done next result)

def Discarded (link : Link slots size) (slot : Slot) (turn : InterruptTurn slots size) : Prop :=
  ∃ after result, turn = .done after result ∧ after.queue = link.queue ∧
    after.pool = link.pool.release slot

theorem finishCopy_pool (link : Link slots size) (outcome : Outcome) :
    (link.finishCopy outcome).2.pool = link.pool := by
  unfold finishCopy
  split <;> rfl

theorem CopyEnding.goes {copied : Except (Error BusFault) Bool}
    (ended : CopyEnding link slot copied turn) :
    (link.phase = .delivering ∧ copied = .ok true) ∧ Accepted link slot turn ∨
      ¬ (link.phase = .delivering ∧ copied = .ok true) ∧ Discarded link slot turn := by
  have spared := sparesHandler_finishCopy link (copyOutcome copied)
  have pool := finishCopy_pool link (copyOutcome copied)
  cases ended with
  | @stale next other =>
      rw [other] at spared pool
      have elsewhere : ¬ link.phase = .delivering := fun delivering => by
        cases (delivering_of_finishCopy other).mpr delivering
      refine .inr ⟨fun both => elsewhere both.1, _, _, rfl, spared.queue, ?_⟩
      exact congrArg (fun pool => Pool.release pool slot) pool
  | handover current good transfers =>
      rw [current] at spared pool
      refine .inl ⟨⟨(delivering_of_finishCopy current).mp rfl, good⟩, ?_⟩
      exact .handover (spared.handler.symm.trans transfers) spared.queue pool
  | @queued next current good ranges =>
      rw [current] at spared pool
      refine .inl ⟨⟨(delivering_of_finishCopy current).mp rfl, good⟩, ?_⟩
      have ranging : link.handler = .ranging := spared.handler.symm.trans ranges
      have queue : next.signal.queue = link.queue := spared.queue
      unfold enqueue
      rw [queue]
      split
      · rename_i pushed
        exact .queued ranging pushed rfl pool
      · rename_i closed
        exact .refused ranging closed queue (congrArg (fun pool => Pool.release pool slot) pool)
  | @dropped next current unwanted =>
      rw [current] at spared pool
      have released : (next.signal.releaseSlot slot).pool = link.pool.release slot :=
        congrArg (fun pool => Pool.release pool slot) pool
      by_cases good : copied = .ok true
      · have pings := unwanted.resolve_left fun failed => failed good
        refine .inl ⟨⟨(delivering_of_finishCopy current).mp rfl, good⟩, ?_⟩
        exact .answered (spared.handler.symm.trans pings) spared.queue released
      · exact .inr ⟨fun both => good both.2, _, _, rfl, spared.queue, released⟩

/-- A step of a copy goes on copying, or it ends the copy with the frame accepted or with
the buffer given back. -/
theorem InterruptTurns.copy_goes (turns : InterruptTurns link id point turn)
    (copies : point.copies? = some slot) (own : link.ClaimedAt id point) :
    turn = .wait ∨
      (∃ after later, turn = .next after later ∧ later.copies? = some slot ∧
        Agrees link after ∧ link.accepts point = false) ∨
      ∃ middle, Agrees link middle ∧
        (link.accepts point = true ∧ Accepted middle slot turn ∨
          link.accepts point = false ∧ Discarded middle slot turn) := by
  rcases turns.finds copies own with waits | ⟨after, later, same, goesOn, agrees, finds⟩ |
    ⟨middle, copied, good, agrees, ended, finds, same⟩
  · exact .inl waits
  · refine .inr (.inl ⟨after, later, same, goesOn, agrees, ?_⟩)
    rw [accepts, finds]
    simp
  · have accepts_iff : link.accepts point = true ↔
        middle.phase = .delivering ∧ copied = .ok true := by
      rw [Link.accepts_iff, agrees.phase, finds, same, Option.some.injEq]
    rw [← Bool.not_eq_true, accepts_iff]
    exact .inr (.inr ⟨middle, agrees, ended.goes⟩)

theorem copies_of_accepts (accepts : link.accepts point = true) :
    ∃ slot length, point = .readFrame slot length := by
  have finds := (accepts_iff.mp accepts).2
  cases point with
  | readFrame slot length => exact ⟨slot, length, rfl⟩
  | readLength slot =>
      simp only [finds?] at finds
      split at finds <;> cases finds
  | bufferLock slot length =>
      simp only [finds?] at finds
      split at finds <;> cases finds
  | _ => cases finds

end Link

end UwbRadio
