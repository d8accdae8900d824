import UwbRadio.Proofs.Link.Balance
import UwbRadio.Proofs.Link.Decision
import UwbRadio.Proofs.Link.Flags

/-!
Late events. When no caller expects an event and no frame is copied, an event can only
end what an earlier caller has abandoned. Then it does what the next caller would have
done about it, so that neither the phase nor the buffers tell a transaction that begins
afterwards whether it came.
-/

namespace UwbRadio

def Event.closes : Event → Option Slot → Bool
  | .sent, some _ => false
  | _, _ => true

namespace Phase

def settled : Phase → Bool
  | .idle | .finished _ | .abandoned _ => true
  | .sending _ | .waitingResponse _ | .delivering => false

def closedBy : Phase → List Event → Bool
  | .abandoned slot, events => events.any fun event => event.closes slot
  | _, _ => false

theorem closedBy_append (phase : Phase) (first second : List Event) :
    phase.closedBy (first ++ second) = (phase.closedBy first || phase.closedBy second) := by
  cases phase with
  | abandoned slot => exact List.any_append
  | _ => rfl

theorem onEvent_abandoned (slot : Option Slot) (event : Event) :
    (abandoned slot).onEvent event =
      if event.closes slot then (.idle, .empty, .drain slot)
      else (.abandoned slot, .empty, .nothing) := by
  cases event <;> cases slot <;> rfl

end Phase

namespace Link

variable {slots size : Nat} {link after : Link slots size}

/-- What late events leave. -/
def drained (link : Link slots size) (events : List Event) : Link slots size :=
  if link.phase.closedBy events then link.discardPhase else link

@[simp] theorem discardPhase_phase (link : Link slots size) : link.discardPhase.phase = .idle := by
  rw [discardPhase, releaseSlot?_phase]

theorem settled_drained (settled : link.phase.settled = true) (events : List Event) :
    (link.drained events).phase.settled = true := by
  unfold drained
  split
  · rw [discardPhase_phase]
    rfl
  · exact settled

theorem drained_of_unclosed {events : List Event} (open_ : link.phase.closedBy events = false) :
    link.drained events = link := by
  rw [drained, open_]
  rfl

theorem drained_of_unabandoned (events : List Event)
    (other : ∀ slot, link.phase ≠ .abandoned slot) : link.drained events = link := by
  apply drained_of_unclosed
  cases kind : link.phase with
  | abandoned slot => exact absurd kind (other slot)
  | _ => rfl

theorem drained_of_abandoned_none {events : List Event} (abandoned : link.phase = .abandoned none)
    (some : events ≠ []) : link.drained events = { link with phase := .idle } := by
  have closed : link.phase.closedBy events = true := by
    rw [abandoned]
    cases events with
    | nil => exact absurd rfl some
    | cons first rest => cases first <;> rfl
  rw [drained, if_pos closed, discardPhase, abandoned]
  rfl

theorem drained_of_sent {slot : Slot} {events : List Event}
    (abandoned : link.phase = .abandoned (some slot)) (sent : ∀ event ∈ events, event = .sent) :
    link.drained events = link := by
  apply drained_of_unclosed
  rw [abandoned, Phase.closedBy, List.any_eq_false]
  intro event member
  rw [sent event member]
  exact Bool.false_ne_true

theorem drained_of_unsent {slot : Slot} {events : List Event}
    (abandoned : link.phase = .abandoned (some slot)) (other : ∃ event ∈ events, event ≠ .sent) :
    link.drained events =
      { link with phase := .idle, pool := link.pool.release slot } := by
  obtain ⟨event, member, unsent⟩ := other
  have closed : link.phase.closedBy events = true := by
    rw [abandoned, Phase.closedBy, List.any_eq_true]
    refine ⟨event, member, ?_⟩
    cases event with
    | sent => exact absurd rfl unsent
    | _ => rfl
  rw [drained, if_pos closed, discardPhase, abandoned]
  rfl

theorem drained_drained (link : Link slots size) (first second : List Event) :
    (link.drained first).drained second = link.drained (first ++ second) := by
  unfold drained
  rw [Phase.closedBy_append]
  cases link.phase.closedBy first with
  | true =>
      rw [if_pos rfl, discardPhase_phase]
      rfl
  | false => rfl

theorem observed_same (link : Link slots size) : link.observed link.phase .empty = link := by
  rw [observed, Status.insert_empty]

theorem feed_settled (settled : link.phase.settled = true) (event : Event) :
    link.feed event = .done (link.drained [event]) (.ok ()) := by
  have unmoved (moved : link.phase.onEvent event = (link.phase, .empty, .nothing) ∨
      link.phase.onEvent event = (link.phase, .empty, .spurious))
      (kept : link.phase.closedBy [event] = false) :
      link.feed event = .done (link.drained [event]) (.ok ()) := by
    rw [drained_of_unclosed kept]
    rcases moved with moved | moved
    · rw [← (Feeding.passed moved (.inl rfl)).turn_eq, observed_same]
    · rw [← (Feeding.passed moved (.inr rfl)).turn_eq, observed_same]
  have closed {slot : Option Slot} (abandoned : link.phase = .abandoned slot)
      (moved : link.phase.onEvent event = (.idle, .empty, .drain slot))
      (ends : event.closes slot = true) :
      link.feed event = .done (link.drained [event]) (.ok ()) := by
    have last : link.phase.closedBy [event] = true := by
      rw [abandoned, Phase.closedBy, List.any_cons, ends]
      rfl
    rw [← (Feeding.drained moved).turn_eq, drained, if_pos last, discardPhase, abandoned, observed,
      Status.insert_empty]
    rfl
  cases kind : link.phase with
  | idle =>
      refine unmoved (.inr ?_) ?_
      · rw [kind]
        cases event <;> rfl
      · rw [kind]
        rfl
  | finished outcome =>
      refine unmoved (.inr ?_) ?_
      · rw [kind]
        cases event <;> rfl
      · rw [kind]
        rfl
  | abandoned slot =>
      cases ends : event.closes slot with
      | true =>
          refine closed kind ?_ ends
          rw [kind, Phase.onEvent_abandoned, if_pos ends]
      | false =>
          refine unmoved (.inl ?_) ?_
          · rw [kind, Phase.onEvent_abandoned, ends, if_neg Bool.false_ne_true]
          · rw [kind, Phase.closedBy, List.any_cons, ends]
            rfl
  | _ => rw [kind] at settled; cases settled

theorem FeedingAll.of_settled {events : List Event} {turn : InterruptTurn slots size}
    (fed : FeedingAll link events turn) (settled : link.phase.settled = true) :
    turn = .done (link.drained events) (.ok ()) := by
  induction fed with
  | @nil link =>
      have kept : link.phase.closedBy [] = false := by cases link.phase <;> rfl
      rw [drained_of_unclosed kept]
  | last fed => exact fed.turn_eq.trans (feed_settled settled _)
  | @cons link first next events turn fed later ih =>
      have same := fed.turn_eq.trans (feed_settled settled first)
      cases same
      rw [ih (settled_drained settled [first]), drained_drained]
      rfl

/-- Whoever looks on sees no difference, but for the phase and the buffers themselves. -/
structure Alike (link after : Link slots size) : Prop where
  status : after.status = link.status
  sequence : after.sequence = link.sequence
  state : after.state = link.state
  completion : after.completion = link.completion
  bus : after.bus = link.bus
  delivered : after.delivered = link.delivered
  queue : after.queue = link.queue

theorem alike_drained (link : Link slots size) (events : List Event) :
    link.Alike (link.drained events) := by
  unfold drained
  split
  · rename_i closed
    cases kind : link.phase with
    | abandoned slot =>
        have before : link.state = link.last := state_of_over (by rw [kind]; rfl)
        have later : link.discardPhase.state = link.discardPhase.last :=
          state_of_over (by rw [discardPhase_phase]; rfl)
        cases slot with
        | none =>
            have same : link.discardPhase = { link with phase := .idle } := by
              rw [discardPhase, kind]
              rfl
            rw [same] at later ⊢
            exact ⟨rfl, rfl, later.trans before.symm, rfl, rfl, rfl, rfl⟩
        | some slot =>
            have same : link.discardPhase = { link with phase := .idle }.releaseSlot slot := by
              rw [discardPhase, kind]
              rfl
            rw [same] at later ⊢
            exact ⟨rfl, rfl, later.trans before.symm, rfl, rfl, rfl, rfl⟩
    | _ => rw [kind] at closed; cases closed
  · exact ⟨rfl, rfl, rfl, rfl, rfl, rfl, rfl⟩

/-- Whether somebody has the buffer reserved apart from the phase. -/
def reservedBeside (link : Link slots size) (index : Nat) : Bool :=
  link.pool.isOwned index && link.phase.slot? != some ⟨index⟩

theorem beside_congr (owned : after.pool.owned = link.pool.owned)
    (same : after.phase.slot? = link.phase.slot?) :
    after.reservedBeside = link.reservedBeside := by
  funext index
  rw [reservedBeside, reservedBeside, same, Pool.isOwned_of_owned_eq owned]

private theorem other_slot (slot : Slot) (index : Nat) :
    (some slot != some (Slot.mk index)) = (index != slot.index) := by
  by_cases same : index = slot.index
  · subst same
    simp
  · have other : slot ≠ ⟨index⟩ := fun equal => same (congrArg Slot.index equal.symm)
    simp [bne, other, same]

theorem beside_discardPhase (link : Link slots size) :
    link.discardPhase.reservedBeside = link.reservedBeside := by
  funext index
  rw [reservedBeside, reservedBeside, discardPhase_phase, discardPhase]
  cases link.phase.slot? with
  | none => rfl
  | some slot =>
      have free : ({ link with phase := .idle }.releaseSlot? (some slot)).pool =
          link.pool.release slot := rfl
      rw [free, Pool.isOwned_release, other_slot]
      exact Bool.and_true _

theorem beside_drained (link : Link slots size) (events : List Event) :
    (link.drained events).reservedBeside = link.reservedBeside := by
  unfold drained
  split
  · exact link.beside_discardPhase
  · rfl

theorem beside_entered (link : Link slots size) (id : TaskId) :
    (link.entered id).reservedBeside = link.reservedBeside :=
  ({ link with gate := Lock.heldBy id }).beside_discardPhase

theorem beside_begun {slot : Slot} {pool : Pool slots size} {phase : Phase} (counted : Bool)
    (reserves : link.pool.Reserves slot pool) (idle : link.phase = .idle)
    (holds : phase.slot? = some slot) :
    ({ link with pool }.beginTransaction phase counted).reservedBeside = link.reservedBeside := by
  funext index
  have begun : ({ link with pool }.beginTransaction phase counted).reservedBeside index =
      (pool.isOwned index && phase.slot? != some ⟨index⟩) := rfl
  have nothing : (Phase.idle.slot? != some (Slot.mk index)) = true := rfl
  rw [begun, reservedBeside, reserves.owns, holds, idle, other_slot, nothing, Bool.and_true]
  by_cases same : index = slot.index
  · rw [same, reserves.free, bne_self_eq_false, Bool.and_false]
  · rw [bne_iff_ne.mpr same, beq_eq_false_iff_ne.mpr same, Bool.or_false, Bool.and_true]

/-- After a step of a caller whose transaction has not begun: the phase stays settled
unless the transaction begins with the step, and no buffer of others changes. -/
def Settles (link : Link slots size) : CallerTurn slots size → Prop
  | .wait => True
  | .next after later =>
      after.reservedBeside = link.reservedBeside ∧ (later.begun = false → after.phase.settled = true)
  | .done after _ => after.reservedBeside = link.reservedBeside ∧ after.phase.settled = true

theorem Preparation.settles {exchange : Exchange} {turn : CallerTurn slots size}
    (prepared : Preparation after exchange turn) (settled : after.phase.settled = true)
    (unheld : after.phase.slot? = none) (beside : after.reservedBeside = link.reservedBeside) :
    link.Settles turn := by
  cases prepared with
  | receive => exact ⟨beside, fun _ => settled⟩
  | refused => exact ⟨beside, settled⟩
  | reserve => exact ⟨beside, fun _ => settled⟩
  | begin =>
      have kept : (after.beginTransaction (.sending none) true).reservedBeside =
          after.reservedBeside := beside_congr rfl unheld.symm
      exact ⟨kept.trans beside, nofun⟩

theorem CallerTurns.settles {exchange : Exchange} {id : TaskId} {point : CallerPoint}
    {turn : CallerTurn slots size} (turns : CallerTurns link id exchange point turn)
    (admits : link.Admits id point) (before : point.begun = false) : link.Settles turn := by
  have entered : (link.entered id).phase.settled = true := by rw [entered_phase]; rfl
  have idles (idle : link.phase = .idle) : link.phase.settled = true := by rw [idle]; rfl
  have unheld (idle : link.phase = .idle) : link.phase.slot? = none := by rw [idle]; rfl
  cases turns with
  | wait => trivial
  | silence => exact ⟨beside_entered link id, fun _ => entered⟩
  | enter free ended prepared =>
      exact prepared.settles entered (by rw [entered_phase]; rfl) (beside_entered link id)
  | silenceLock => exact ⟨rfl, fun _ => idles (admits.idle nofun rfl)⟩
  | silenceFailed => exact ⟨rfl, idles (admits.idle nofun rfl)⟩
  | silenced performed prepared =>
      have idle := admits.idle nofun rfl
      exact prepared.settles (idles idle) (unheld idle) rfl
  | silencing => exact ⟨rfl, fun _ => idles (admits.idle nofun rfl)⟩
  | @begin frame deadline slot pool reserved =>
      refine ⟨?_, nofun⟩
      exact beside_begun _ (Pool.reserve_reserves reserved) (admits.idle nofun rfl)
        (slot?_initialPhase exchange slot)
  | starved exhausted =>
      exact ⟨beside_congr (Pool.reserve_none exhausted) rfl, idles (admits.idle nofun rfl)⟩
  | reserving exhausted =>
      exact ⟨beside_congr (Pool.reserve_none exhausted) rfl,
        fun _ => idles (admits.idle nofun rfl)⟩
  | _ => cases before

theorem InterruptTurns.settles {id : TaskId} {point : InterruptPoint}
    {turn : InterruptTurn slots size} (turns : InterruptTurns link id point turn)
    (settled : link.phase.settled = true) (empty : point.slot? = none) :
    turn.Leaves fun after =>
      after.reservedBeside = link.reservedBeside ∧ after.phase.settled = true := by
  cases turns with
  | wait => trivial
  | @event event turn fed =>
      rw [fed.turn_eq, feed_settled settled]
      exact ⟨link.beside_drained [event], settled_drained settled [event]⟩
  | cleared performed fed =>
      rw [fed.of_settled settled]
      refine ⟨beside_drained _ _, ?_⟩
      apply settled_drained
      exact settled
  | statusLock => exact ⟨rfl, settled⟩
  | readFailed => exact ⟨rfl, settled⟩
  | nothingPending => exact ⟨rfl, settled⟩
  | pending => exact ⟨rfl, settled⟩
  | clearFailed => exact ⟨rfl, settled⟩
  | _ => cases empty

end Link

end UwbRadio
