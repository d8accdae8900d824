import UwbRadio.Proofs.Link.Copy
import UwbRadio.Proofs.Link.Writes

/-!
What is left of a transaction whose end has not been told. The phase is the only note
of it, and the note is what makes the next caller silence the radio. It lasts until
the event comes that ends the transaction, apart from the cases in `Link.forgets`:
silencing fails, or a transaction without a buffer has been abandoned and a copy that
is not its own ends, or an event of a reception is fed in.
-/

namespace UwbRadio

/-- A transaction whose end has not been told, by whether a frame is to end it. -/
def Phase.awaits? : Phase → Option Bool
  | .sending slot | .abandoned slot => some slot.isSome
  | .waitingResponse _ => some true
  | .idle | .delivering | .finished _ => none

/-- Whether the event ends a transaction, by whether a frame is to end it. -/
def Event.ends : Event → Bool → Bool
  | .sent, answered => !answered
  | .received, answered | .receiveTimeout, answered | .receiveError, answered => answered

namespace CallerPoint

def silences : CallerPoint → Bool
  | .silenceLock | .silencing _ => true
  | _ => false

end CallerPoint

namespace Link

variable {slots size : Nat} {link after : Link slots size}

theorem unfinished_of_awaits {phase : Phase} {answered : Bool}
    (awaits : phase.awaits? = some answered) : phase.unfinished = true := by
  cases phase with
  | idle => cases awaits
  | finished => cases awaits
  | _ => rfl

def endsCopy (link : Link slots size) (id : TaskId) (point : InterruptPoint) : Bool :=
  point.copies?.isSome &&
    match link.interruptStep id point with
    | .wait => false
    | .next _ later => later.copies?.isNone
    | .done _ _ => true

/-- Whether the next step of the event side takes the note away that a transaction
without a buffer has been abandoned, though it is not told that one's end. -/
def forgets (link : Link slots size) (id : TaskId) (point : InterruptPoint) : Bool :=
  link.phase = .abandoned none &&
    ((link.feeds point).any (fun event => event != .sent) || link.endsCopy id point)

def failsSilence (link : Link slots size) : CallerPoint → Bool
  | .silencing accesses =>
      match ((Access.advance accesses).perform link.bus).1 with
      | .ok _ => false
      | .error _ => true
  | _ => false

/-- What is left is of the same kind, and a lost buffer is not among it. -/
structure StillLeft (link after : Link slots size) : Prop where
  awaits : after.phase.awaits? = link.phase.awaits?
  abandoned : after.phase = .abandoned none → link.phase = .abandoned none

theorem stillLeft_of_phase_eq (same : after.phase = link.phase) : link.StillLeft after where
  awaits := by rw [same]
  abandoned := by rw [same]; exact id

theorem StillLeft.trans {middle : Link slots size} (first : link.StillLeft middle)
    (second : middle.StillLeft after) : link.StillLeft after where
  awaits := second.awaits.trans first.awaits
  abandoned := fun abandoned => first.abandoned (second.abandoned abandoned)

theorem Feeding.stillLeft {event : Event} {turn : InterruptTurn slots size} {answered : Bool}
    (fed : Feeding link event turn) (awaits : link.phase.awaits? = some answered)
    (other : event.ends answered = false)
    (spared : link.phase = .abandoned none → event = .sent) :
    turn.Leaves link.StillLeft := by
  have keeps : (link.phase.onEvent event).1.awaits? = link.phase.awaits? ∧
      ((link.phase.onEvent event).1 = .abandoned none → link.phase = .abandoned none) := by
    cases kind : link.phase with
    | sending slot =>
        rw [kind] at awaits
        cases slot <;> cases awaits <;> cases event <;> cases other <;>
          exact ⟨rfl, fun same => (by cases same)⟩
    | waitingResponse slot =>
        rw [kind] at awaits
        cases awaits
        cases event <;> cases other
        exact ⟨rfl, fun same => (by cases same)⟩
    | abandoned slot =>
        rw [kind] at awaits
        cases slot with
        | none =>
            have sent := spared kind
            subst sent
            cases awaits
            cases other
        | some slot =>
            cases awaits
            cases event <;> cases other
            exact ⟨rfl, fun same => (by cases same)⟩
    | idle => rw [kind] at awaits; cases awaits
    | delivering => rw [kind] at awaits; cases awaits
    | finished outcome => rw [kind] at awaits; cases awaits
  cases fed with
  | passed moved => rw [moved] at keeps; exact ⟨keeps.1, keeps.2⟩
  | signalled moved => rw [moved] at keeps; exact ⟨keeps.1, keeps.2⟩
  | copying moved => rw [moved] at keeps; exact ⟨keeps.1, keeps.2⟩
  | released moved => rw [moved] at keeps; exact ⟨keeps.1, keeps.2⟩
  | @drained phase flags slot moved =>
      rw [moved] at keeps
      have kept : link.StillLeft (link.observed phase flags) := ⟨keeps.1, keeps.2⟩
      exact kept.trans (stillLeft_of_phase_eq (releaseSlot?_phase _ _))

theorem FeedingAll.stillLeft {events : List Event} {turn : InterruptTurn slots size}
    {answered : Bool} (fed : FeedingAll link events turn)
    (awaits : link.phase.awaits? = some answered)
    (others : ∀ event ∈ events, event.ends answered = false)
    (spared : link.phase = .abandoned none → ∀ event ∈ events, event = .sent) :
    turn.Leaves link.StillLeft := by
  induction fed with
  | nil => exact stillLeft_of_phase_eq rfl
  | @last link event turn fed =>
      exact fed.stillLeft awaits (others event (List.mem_singleton_self event))
        fun abandoned => spared abandoned event (List.mem_singleton_self event)
  | @cons link first next events turn fed later ih =>
      have kept : link.StillLeft next :=
        fed.stillLeft awaits (others first List.mem_cons_self)
          fun abandoned => spared abandoned first List.mem_cons_self
      have rest := ih (kept.awaits.trans awaits)
        (fun event member => others event (List.mem_cons_of_mem first member))
        (fun abandoned event member =>
          spared (kept.abandoned abandoned) event (List.mem_cons_of_mem first member))
      exact rest.mono fun after second => kept.trans second

/-- The note lasts over a step of the event side that is not told the end of the
transaction and does not forget it. -/
theorem InterruptTurns.stillLeft {id : TaskId} {point : InterruptPoint} {answered : Bool}
    (awaits : link.phase.awaits? = some answered)
    (others : ∀ event ∈ link.feeds point, event.ends answered = false)
    (kept : link.forgets id point = false) :
    (link.interruptStep id point).Leaves link.StillLeft := by
  have spared (abandoned : link.phase = .abandoned none) :
      (∀ event ∈ link.feeds point, event = .sent) ∧ link.endsCopy id point = false := by
    unfold forgets at kept
    rw [abandoned, decide_eq_true rfl, Bool.true_and, Bool.or_eq_false_iff] at kept
    refine ⟨?_, kept.2⟩
    intro event member
    simpa using List.any_eq_false.mp kept.1 event member
  have stepped := interruptStep_turns link id point
  cases copies : point.copies? with
  | some slot =>
      rcases stepped.copying copies with same | ⟨next, later, same, _, agrees⟩ |
        ⟨middle, copied, agrees, ended⟩
      · rw [same]; trivial
      · rw [same]
        exact stillLeft_of_phase_eq agrees.phase
      · have notDelivering : middle.phase ≠ .delivering := by
          intro delivering
          rw [← agrees.phase, delivering] at awaits
          cases awaits
        have notLeft : middle.phase ≠ .abandoned none := by
          intro abandoned
          have lasts := (spared (agrees.phase.symm.trans abandoned)).2
          unfold endsCopy at lasts
          rw [copies, Option.isSome_some, Bool.true_and] at lasts
          cases turned : link.interruptStep id point with
          | wait => rw [turned] at ended; cases ended
          | next after later =>
              rw [turned] at ended lasts
              cases ended with
              | handover current =>
                  unfold finishCopy at current
                  rw [abandoned] at current
                  cases current
          | done after result => rw [turned] at lasts; cases lasts
        rw [ended.stale_eq notDelivering notLeft]
        exact stillLeft_of_phase_eq agrees.phase
  | none =>
      rcases stepped.feeding copies with same | ⟨middle, same, fed⟩ | ⟨_, still, _⟩
      · rw [same]
        trivial
      · have told := fed.stillLeft (same.phase ▸ awaits) others fun abandoned =>
          (spared (same.phase.symm.trans abandoned)).1
        exact told.mono fun after last => (stillLeft_of_phase_eq same.phase).trans last
      · exact still.mono fun after same => stillLeft_of_phase_eq same.phase

theorem Feeding.of_abandoned {event : Event} {turn : InterruptTurn slots size}
    (fed : Feeding link event turn)
    (gone : link.phase = .abandoned none ∨ link.phase = .idle) :
    turn.Leaves fun after => after.phase = .idle := by
  have idles : (link.phase.onEvent event).1 = .idle := by
    rcases gone with abandoned | idle
    · rw [abandoned]
      cases event <;> rfl
    · rw [idle]
      cases event <;> rfl
  cases fed with
  | passed moved => rw [moved] at idles; exact idles
  | signalled moved => rw [moved] at idles; exact idles
  | copying moved => rw [moved] at idles; exact idles
  | released moved => rw [moved] at idles; exact idles
  | drained moved => rw [moved] at idles; exact (releaseSlot?_phase _ _).trans idles

theorem FeedingAll.of_abandoned {events : List Event} {turn : InterruptTurn slots size}
    (fed : FeedingAll link events turn)
    (gone : (link.phase = .abandoned none ∧ events ≠ []) ∨ link.phase = .idle) :
    turn.Leaves fun after => after.phase = .idle := by
  induction fed with
  | nil =>
      rcases gone with ⟨_, nonempty⟩ | idle
      · exact absurd rfl nonempty
      · exact idle
  | last fed => exact fed.of_abandoned (gone.imp And.left id)
  | cons fed later ih => exact ih (.inr (fed.of_abandoned (gone.imp And.left id)))

theorem InterruptTurns.forgotten {id : TaskId} {point : InterruptPoint}
    (lost : link.forgets id point = true) :
    (link.interruptStep id point).Leaves fun after => after.phase = .idle := by
  unfold forgets at lost
  rw [Bool.and_eq_true, decide_eq_true_iff, Bool.or_eq_true] at lost
  obtain ⟨abandoned, told | ends⟩ := lost
  · have stepped := interruptStep_turns link id point
    generalize link.interruptStep id point = turn at stepped ⊢
    cases stepped with
    | wait => trivial
    | event fed => exact fed.of_abandoned (.inl abandoned)
    | @cleared pending bus turn performed fed =>
        rw [feeds, performed] at told
        have nonempty : eventsTold pending ≠ [] := by
          intro none
          rw [none] at told
          cases told
        exact fed.of_abandoned (.inl ⟨abandoned, nonempty⟩)
    | @clearFailed pending fault bus performed =>
        rw [feeds, performed] at told
        cases told
    | _ => cases told
  · have stepped := interruptStep_turns link id point
    unfold endsCopy at ends
    rw [Bool.and_eq_true] at ends
    obtain ⟨slot, copies⟩ := Option.isSome_iff_exists.mp ends.1
    rcases stepped.copying copies with same | ⟨next, later, same, goesOn, _⟩ |
      ⟨middle, copied, agrees, ended⟩
    · rw [same]; trivial
    · rw [same] at ends
      dsimp only at ends
      rw [goesOn] at ends
      cases ends.2
    · exact ended.of_abandoned (agrees.phase.trans abandoned)

end Link

end UwbRadio
