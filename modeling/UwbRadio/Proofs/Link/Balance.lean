import UwbRadio.Proofs.Link.Gate
import UwbRadio.Proofs.Pool.Ownership

/-!
The buffers of a link in balance. The link itself holds the buffer of its phase and
those in its queue; the others that are reserved are in somebody's hands.
`Balanced` counts both against the pool: a reserved buffer is held once and a free
one by nobody.

The link is balanced against the list of the buffers in other hands. What a piece of
the program gives away comes to the front of that list, and what it takes in is
taken from there.
-/

namespace UwbRadio

namespace Pool

variable {slots size : Nat}

def tally (pool : Pool slots size) (slot : Slot) : Nat :=
  (pool.isOwned slot.index).toNat

theorem tally_le_one (pool : Pool slots size) (slot : Slot) : pool.tally slot ≤ 1 :=
  Bool.toNat_le _

theorem tally_of_owned_eq {pool other : Pool slots size} (same : other.owned = pool.owned)
    (slot : Slot) : other.tally slot = pool.tally slot := by
  rw [tally, tally, isOwned_of_owned_eq same]

theorem tally_empty (slot : Slot) : (empty slots size).tally slot = 0 := by
  rw [tally, isOwned_empty]
  rfl

private theorem index_ne {slot other : Slot} (apart : other ≠ slot) :
    other.index ≠ slot.index := by
  intro same
  cases slot
  cases other
  exact apart (congrArg Slot.mk same)

theorem Reserves.tally_eq {pool after : Pool slots size} {slot : Slot}
    (reserves : pool.Reserves slot after) (other : Slot) :
    after.tally other = pool.tally other + [slot].count other := by
  rw [tally, tally, reserves.owns]
  by_cases same : other = slot
  · subst same
    rw [reserves.free]
    simp
  · have apart := beq_eq_false_iff_ne.mpr (index_ne same)
    rw [apart, Bool.or_false, List.count_eq_zero.mpr (by simpa using same), Nat.add_zero]

theorem tally_release {pool : Pool slots size} {slot : Slot} (held : 0 < pool.tally slot)
    (other : Slot) : pool.tally other = (pool.release slot).tally other + [slot].count other := by
  rw [tally, tally, isOwned_release]
  by_cases same : other = slot
  · subst same
    have owned : pool.isOwned other.index = true := by
      cases owned : pool.isOwned other.index with
      | true => rfl
      | false => simp [tally, owned] at held
    rw [owned]
    simp
  · have apart := bne_iff_ne.mpr (index_ne same)
    rw [apart, Bool.and_true, List.count_eq_zero.mpr (by simpa using same), Nat.add_zero]

end Pool

namespace Reaction

def slot? : Reaction → Option Slot
  | .copy slot | .release slot => some slot
  | .drain slot => slot
  | .nothing | .signal | .spurious => none

end Reaction

namespace Link

variable {slots size : Nat}

def claims (link : Link slots size) : List Slot :=
  link.phase.slot?.toList ++ link.queue.items.map Ranging.WorkItem.slot

/-- Every reserved buffer is held once, by the link or by one of the `others`, and no
free one is held. -/
def Balanced (link : Link slots size) (others : List Slot) : Prop :=
  ∀ slot, link.claims.count slot + others.count slot = link.pool.tally slot

variable {link after : Link slots size} {others : List Slot}

theorem Balanced.congr (balanced : link.Balanced others) (claims : after.claims = link.claims)
    (owned : after.pool.owned = link.pool.owned) : after.Balanced others := by
  intro slot
  rw [claims, Pool.tally_of_owned_eq owned]
  exact balanced slot

theorem Balanced.perm {rest : List Slot} (balanced : link.Balanced others)
    (same : others.Perm rest) : link.Balanced rest := by
  intro slot
  rw [← same.count_eq]
  exact balanced slot

theorem Balanced.free_not_held {slot : Slot} (balanced : link.Balanced others)
    (free : link.pool.isOwned slot.index = false) : slot ∉ link.claims ∧ slot ∉ others := by
  have none : link.pool.tally slot = 0 := by rw [Pool.tally, free]; rfl
  have counted := balanced slot
  rw [none] at counted
  exact ⟨List.count_eq_zero.mp (by omega), List.count_eq_zero.mp (by omega)⟩

theorem Balanced.claimed_not_held {slot : Slot} (balanced : link.Balanced others)
    (claimed : slot ∈ link.claims) : slot ∉ others := by
  have held := List.count_pos_iff.mpr claimed
  have counted := balanced slot
  have bound := link.pool.tally_le_one slot
  exact List.count_eq_zero.mp (by omega)

theorem Balanced.not_held_behind {slot : Slot} {front : List Slot}
    (balanced : link.Balanced (front ++ slot :: others)) : slot ∉ others := by
  have counted := balanced slot
  have bound := link.pool.tally_le_one slot
  rw [List.count_append, List.count_cons_self] at counted
  exact List.count_eq_zero.mp (by omega)

theorem Balanced.releaseSlot {slot : Slot} (balanced : link.Balanced (slot :: others)) :
    (link.releaseSlot slot).Balanced others := by
  intro other
  have held : 0 < link.pool.tally slot := by
    have counted := balanced slot
    rw [List.count_cons_self] at counted
    omega
  have counted := balanced other
  rw [Pool.tally_release held other, ← List.singleton_append, List.count_append] at counted
  have claims : (link.releaseSlot slot).claims = link.claims := rfl
  have pool : (link.releaseSlot slot).pool = link.pool.release slot := rfl
  rw [claims, pool]
  omega

theorem Balanced.releaseSlot? {slot : Option Slot}
    (balanced : link.Balanced (slot.toList ++ others)) :
    (link.releaseSlot? slot).Balanced others := by
  cases slot with
  | none => exact balanced
  | some slot => exact balanced.releaseSlot

theorem Balanced.reserve {slot : Slot} {pool : Pool slots size}
    (balanced : link.Balanced others) (reserves : link.pool.Reserves slot pool) :
    { link with pool }.Balanced (slot :: others) := by
  intro other
  have counted := balanced other
  have claims : { link with pool }.claims = link.claims := rfl
  rw [claims, reserves.tally_eq, ← List.singleton_append, List.count_append]
  omega

theorem Balanced.rephase (hand given : List Slot) (phase : Phase)
    (balanced : link.Balanced (hand ++ others))
    (moves : (link.phase.slot?.toList ++ hand).Perm (phase.slot?.toList ++ given)) :
    { link with phase }.Balanced (given ++ others) := by
  intro slot
  have counted := balanced slot
  have moved := moves.count_eq slot
  rw [List.count_append, List.count_append] at moved
  rw [claims, List.count_append, List.count_append] at counted ⊢
  dsimp only at counted ⊢
  omega

theorem Balanced.enqueue {slot : Slot} (balanced : link.Balanced (slot :: others)) :
    (link.enqueue slot).Balanced others := by
  unfold Link.enqueue
  split
  · rename_i queue pushed
    unfold Ranging.Queue.push? at pushed
    split at pushed
    · cases pushed
      intro other
      have counted := balanced other
      rw [← List.singleton_append, List.count_append] at counted
      rw [claims, List.count_append] at counted ⊢
      rw [List.map_append, List.map_singleton, List.count_append]
      dsimp only at counted ⊢
      omega
    · cases pushed
  · exact balanced.releaseSlot

theorem Balanced.pop {item : Ranging.WorkItem} {queue : Ranging.Queue slots}
    (balanced : link.Balanced others) (popped : link.queue.pop? = some (item, queue)) :
    { link with queue }.Balanced (item.slot :: others) := by
  unfold Ranging.Queue.pop? at popped
  split at popped
  · cases popped
  · rename_i first rest queued
    cases popped
    intro other
    have counted := balanced other
    rw [claims, queued, List.map_cons, List.count_append, ← List.singleton_append,
      List.count_append] at counted
    rw [claims, List.count_append, ← List.singleton_append, List.count_append]
    dsimp only at counted ⊢
    omega

/-! ### The caller's side -/

theorem Balanced.entered (balanced : link.Balanced others) (id : TaskId) :
    (link.entered id).Balanced others := by
  have gated : { link with gate := Lock.heldBy id }.Balanced others := balanced.congr rfl rfl
  refine Balanced.releaseSlot? ?_
  apply Balanced.rephase [] _ .idle gated
  exact List.Perm.of_eq (List.append_nil _)

theorem Balanced.beginTransaction (slot : Option Slot) {phase : Phase}
    (balanced : link.Balanced (slot.toList ++ others)) (idle : link.phase = .idle)
    (holds : phase.slot? = slot) (counted : Bool) :
    (link.beginTransaction phase counted).Balanced others := by
  have begun : { link with phase }.Balanced ([] ++ others) := by
    apply Balanced.rephase slot.toList [] phase balanced
    rw [idle, holds]
    exact List.Perm.of_eq (List.append_nil _).symm
  exact begun.congr rfl rfl

private theorem Balanced.keepsSlot (balanced : link.Balanced others) (phase : Phase)
    (same : phase.slot? = link.phase.slot?) : { link with phase }.Balanced others := by
  apply Balanced.rephase [] [] phase balanced
  rw [same]

theorem Balanced.releaseGate (balanced : link.Balanced others) :
    link.releaseGate.Balanced others :=
  balanced.congr rfl rfl

theorem Balanced.failed (balanced : link.Balanced others) (error : Error BusFault)
    (counted : Bool) : (link.failed error counted).Balanced others := by
  have freed : { link with phase := .idle }.Balanced (link.phase.slot?.toList ++ others) := by
    apply Balanced.rephase [] _ .idle balanced
    exact List.Perm.of_eq (List.append_nil _)
  have left : { link with phase := .abandoned link.phase.slot? }.Balanced others :=
    balanced.keepsSlot _ rfl
  unfold Link.failed abort
  cases error with
  | transmitFault =>
      refine Balanced.releaseGate (Balanced.releaseSlot? ?_)
      exact freed.congr rfl rfl
  | _ => exact left.congr rfl rfl

theorem conclude_snd_claims (link : Link slots size) (outcome : Outcome) (counted : Bool) :
    (link.conclude outcome counted).2.claims = link.claims := by
  cases outcome <;> rfl

theorem conclude_snd_pool (link : Link slots size) (outcome : Outcome) (counted : Bool) :
    (link.conclude outcome counted).2.pool = link.pool := by
  cases outcome <;> rfl

theorem Balanced.concluded (balanced : link.Balanced others) (outcome : Outcome)
    (counted : Bool) : (link.conclude outcome counted).2.releaseGate.Balanced others :=
  balanced.congr (conclude_snd_claims link outcome counted)
    (congrArg Pool.owned (conclude_snd_pool link outcome counted))

theorem Balanced.abandon (balanced : link.Balanced others) : link.abandon.2.Balanced others := by
  unfold Link.abandon
  split
  · rename_i outcome finished
    exact balanced.keepsSlot .idle (by rw [finished]; rfl)
  · exact (balanced.keepsSlot (.abandoned link.phase.slot?) rfl).congr rfl rfl

theorem slot?_initialPhase (exchange : Exchange) (slot : Slot) :
    (exchange.initialPhase (some slot)).slot? = some slot := by
  cases exchange <;> rfl

theorem Preparation.balanced {exchange : Exchange} {turn : CallerTurn slots size}
    (prepared : Preparation link exchange turn) (idle : link.phase = .idle)
    (balanced : link.Balanced others) : turn.Leaves fun after => after.Balanced others := by
  cases prepared with
  | receive => exact balanced
  | refused => exact balanced.congr rfl rfl
  | reserve => exact balanced
  | begin => exact Balanced.beginTransaction none balanced idle rfl true

theorem CallerTurns.balanced {exchange : Exchange} {id : TaskId} {point : CallerPoint}
    {turn : CallerTurn slots size} (turns : CallerTurns link id exchange point turn)
    (admits : link.Admits id point) (balanced : link.Balanced others) :
    turn.Leaves fun after => after.Balanced others := by
  cases turns with
  | wait => trivial
  | silence => exact balanced.entered id
  | enter free settled prepared =>
      exact prepared.balanced (entered_phase link id) (balanced.entered id)
  | silenceLock => exact balanced.congr rfl rfl
  | silenceFailed => exact balanced.congr rfl rfl
  | silenced performed prepared =>
      exact prepared.balanced (admits.idle nofun rfl) (balanced.congr rfl rfl)
  | silencing => exact balanced.congr rfl rfl
  | @begin frame deadline slot pool reserved =>
      have taken := balanced.reserve (Pool.reserve_reserves reserved)
      exact Balanced.beginTransaction (some slot) taken (admits.idle nofun rfl)
        (slot?_initialPhase exchange slot) exchange.counted
  | starved exhausted => exact balanced.congr rfl (Pool.reserve_none exhausted)
  | reserving exhausted => exact balanced.congr rfl (Pool.reserve_none exhausted)
  | startLock => exact balanced.congr rfl rfl
  | @startFailed accesses deadline fault bus =>
      have moved : { link with bus }.Balanced others := balanced.congr rfl rfl
      exact moved.failed _ _
  | startedSend => exact balanced.congr rfl rfl
  | startedReceive => exact balanced.congr rfl rfl
  | starting => exact balanced.congr rfl rfl
  | @checkFailed deadline fault bus =>
      have moved : { link with bus }.Balanced others := balanced.congr rfl rfl
      exact moved.failed _ _
  | started => exact balanced.congr rfl rfl
  | late => exact balanced.congr rfl rfl
  | @cancelFailed accesses fault bus =>
      have moved : { link with bus }.Balanced others := balanced.congr rfl rfl
      exact moved.failed _ _
  | @cancelled accesses bus =>
      have moved : { link with bus }.Balanced others := balanced.congr rfl rfl
      exact moved.failed _ _
  | cancelling => exact balanced.congr rfl rfl
  | @finished deadline outcome woken ended =>
      have idled := balanced.keepsSlot .idle (by rw [ended]; rfl)
      have woken : { link with completion := false, phase := .idle }.Balanced others :=
        idled.congr rfl rfl
      exact woken.concluded outcome exchange.counted
  | woken => exact balanced.congr rfl rfl
  | abandoned => exact balanced.abandon.concluded link.abandon.1 exchange.counted
  | waiting => exact balanced

/-! ### The event side -/

/-- The event side has only the buffer of the point it is at in its hands. -/
def Hands (others : List Slot) : InterruptTurn slots size → Prop
  | .wait => True
  | .next after later => after.Balanced (later.slot?.toList ++ others)
  | .done after _ => after.Balanced others

/-- An event takes the buffer out of the phase exactly if it is to be dealt with. -/
theorem onEvent_slots (event : Event) (phase : Phase) :
    phase.slot?.toList =
      (phase.onEvent event).1.slot?.toList ++ (phase.onEvent event).2.2.slot?.toList := by
  cases phase with
  | sending slot => cases event <;> cases slot <;> rfl
  | abandoned slot => cases event <;> cases slot <;> rfl
  | _ => cases event <;> rfl

theorem Balanced.observed {event : Event} {phase : Phase} {flags : Status} {reaction : Reaction}
    (balanced : link.Balanced others)
    (moved : link.phase.onEvent event = (phase, flags, reaction)) :
    (link.observed phase flags).Balanced (reaction.slot?.toList ++ others) := by
  have slots := onEvent_slots event link.phase
  rw [moved] at slots
  have rephased : { link with phase }.Balanced (reaction.slot?.toList ++ others) := by
    apply Balanced.rephase [] _ phase balanced
    rw [List.append_nil, slots]
  exact rephased.congr rfl rfl

theorem Feeding.balanced {event : Event} {turn : InterruptTurn slots size}
    (fed : Feeding link event turn) (balanced : link.Balanced others) : Hands others turn := by
  cases fed with
  | passed moved nothing =>
      rcases nothing with rfl | rfl
      · exact balanced.observed moved
      · exact balanced.observed moved
  | signalled moved => exact (balanced.observed moved).congr rfl rfl
  | copying moved => exact balanced.observed moved
  | @released phase flags slot moved =>
      have taken : (link.observed phase flags).Balanced (slot :: others) :=
        balanced.observed moved
      exact taken.releaseSlot.congr rfl rfl
  | drained moved => exact (balanced.observed moved).releaseSlot?

theorem FeedingAll.balanced {events : List Event} {turn : InterruptTurn slots size}
    (fed : FeedingAll link events turn) (balanced : link.Balanced others) :
    Hands others turn := by
  induction fed with
  | nil => exact balanced
  | last fed => exact fed.balanced balanced
  | cons fed later ih => exact ih (fed.balanced balanced)

theorem Balanced.finishCopy (balanced : link.Balanced others) (outcome : Outcome) :
    (link.finishCopy outcome).2.Balanced others := by
  unfold Link.finishCopy
  split
  · rename_i delivering
    exact (balanced.keepsSlot (.finished outcome) (by rw [delivering]; rfl)).congr rfl rfl
  · rename_i abandoned
    exact balanced.keepsSlot .idle (by rw [abandoned]; rfl)
  · exact balanced

theorem CopyEnding.balanced {slot : Slot} {copied : Except (Error BusFault) Bool}
    {turn : InterruptTurn slots size} (ended : CopyEnding link slot copied turn)
    (balanced : link.Balanced (slot :: others)) : Hands others turn := by
  have kept := balanced.finishCopy (copyOutcome copied)
  cases ended with
  | stale other =>
      rw [other] at kept
      exact kept.releaseSlot
  | @handover next current =>
      rw [current] at kept
      exact kept.congr rfl rfl
  | @queued next current =>
      rw [current] at kept
      have signalled : next.signal.Balanced (slot :: others) := kept.congr rfl rfl
      exact signalled.enqueue
  | @dropped next current =>
      rw [current] at kept
      have signalled : next.signal.Balanced (slot :: others) := kept.congr rfl rfl
      exact signalled.releaseSlot

/-- A step of the event side keeps the balance: the buffer in its hands is handed on,
queued or given back. -/
theorem InterruptTurns.balanced {id : TaskId} {point : InterruptPoint}
    {turn : InterruptTurn slots size} (turns : InterruptTurns link id point turn)
    (balanced : link.Balanced (point.slot?.toList ++ others)) : Hands others turn := by
  cases turns with
  | wait => trivial
  | event fed => exact fed.balanced balanced
  | statusLock => exact balanced.congr rfl rfl
  | readFailed => exact balanced.congr rfl rfl
  | nothingPending => exact balanced.congr rfl rfl
  | pending => exact balanced.congr rfl rfl
  | clearFailed => exact balanced.congr rfl rfl
  | cleared performed fed => exact fed.balanced (balanced.congr rfl rfl)
  | copyLock => exact balanced.congr rfl rfl
  | lengthFailed performed ended => exact ended.balanced (balanced.congr rfl rfl)
  | length => exact balanced.congr rfl rfl
  | tooLong free refused ended => exact ended.balanced (balanced.congr rfl rfl)
  | bufferLock => exact balanced.congr rfl rfl
  | frameFailed performed ended => exact ended.balanced (balanced.congr rfl rfl)
  | unbuffered performed missing ended => exact ended.balanced (balanced.congr rfl rfl)
  | refused performed found foreign ended => exact ended.balanced (balanced.congr rfl rfl)
  | accepted performed found decoded ended => exact ended.balanced (balanced.congr rfl rfl)
  | @handover slot free =>
      have held : link.Balanced (slot :: others) := balanced
      have passedOn : { link with
          delivered := link.pool.contents slot :: link.delivered }.Balanced (slot :: others) :=
        held.congr rfl rfl
      exact passedOn.releaseSlot

end Link

end UwbRadio
