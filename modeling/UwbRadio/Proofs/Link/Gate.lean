import UwbRadio.Proofs.Link.Caller
import UwbRadio.Proofs.Link.Interrupt

/-!
The gate and the phase. Until a caller past the gate begins its transaction the phase
is idle, and from then on until it returns the transaction is under way. A step of
the caller brings it to a point where it finds this, and the event side, with its
late copies, never spoils it.
-/

namespace UwbRadio

namespace Phase

def underWay : Phase → Bool
  | .sending _ | .waitingResponse _ | .delivering | .finished _ => true
  | .idle | .abandoned _ => false

end Phase

namespace Link

variable {slots size : Nat}

/-- What a caller at a point relies on. -/
structure Admits (link : Link slots size) (id : TaskId) (point : CallerPoint) : Prop where
  gate : point ≠ .gate → link.gate.holder = some id
  idle : point ≠ .gate → point.begun = false → link.phase = .idle
  underWay : point.begun = true → link.phase.underWay = true

theorem admits_gate (link : Link slots size) (id : TaskId) : link.Admits id .gate where
  gate := fun past => absurd rfl past
  idle := fun past => absurd rfl past
  underWay := fun begun => by cases begun

theorem admits_before {link : Link slots size} {id : TaskId} {point : CallerPoint}
    (gate : link.gate.holder = some id) (idle : link.phase = .idle)
    (before : point.begun = false) : link.Admits id point where
  gate := fun _ => gate
  idle := fun _ _ => idle
  underWay := fun begun => by rw [before] at begun; cases begun

theorem admits_begun {link : Link slots size} {id : TaskId} {point : CallerPoint}
    (gate : link.gate.holder = some id) (underWay : link.phase.underWay = true)
    (begun : point.begun = true) : link.Admits id point where
  gate := fun _ => gate
  idle := fun _ before => by rw [begun] at before; cases before
  underWay := fun _ => underWay

@[simp] theorem entered_gate (link : Link slots size) (id : TaskId) :
    (link.entered id).gate.holder = some id := by
  simp [entered, discardPhase, Lock.heldBy]

@[simp] theorem entered_phase (link : Link slots size) (id : TaskId) :
    (link.entered id).phase = .idle := by
  simp [entered, discardPhase]

theorem underWay_initialPhase (exchange : Exchange) (slot : Option Slot) :
    (exchange.initialPhase slot).underWay = true := by
  cases exchange with
  | send request => cases slot <;> rfl
  | receive mode timeout => cases slot <;> rfl

theorem Preparation.admits {link after : Link slots size} {exchange : Exchange} {id : TaskId}
    {later : CallerPoint} (prepared : Preparation link exchange (.next after later))
    (gate : link.gate.holder = some id) (idle : link.phase = .idle) : after.Admits id later := by
  cases prepared with
  | receive => exact admits_before gate idle rfl
  | reserve => exact admits_before gate idle rfl
  | begin => exact admits_begun gate rfl rfl

/-- A caller that goes on finds at its next point what it relies on there. -/
theorem CallerTurns.admits {link after : Link slots size} {exchange : Exchange} {id : TaskId}
    {point later : CallerPoint}
    (turns : CallerTurns link id exchange point (.next after later))
    (admits : link.Admits id point) : after.Admits id later := by
  cases turns with
  | silence => exact admits_before (entered_gate _ _) (entered_phase _ _) rfl
  | enter free settled prepared =>
      exact prepared.admits (entered_gate _ _) (entered_phase _ _)
  | silenceLock => exact admits_before (admits.gate nofun) (admits.idle nofun rfl) rfl
  | silenced performed prepared =>
      exact prepared.admits (admits.gate nofun) (admits.idle nofun rfl)
  | silencing => exact admits_before (admits.gate nofun) (admits.idle nofun rfl) rfl
  | begin => exact admits_begun (admits.gate nofun) (underWay_initialPhase _ _) rfl
  | reserving => exact admits_before (admits.gate nofun) (admits.idle nofun rfl) rfl
  | startLock => exact admits_begun (admits.gate nofun) (admits.underWay rfl) rfl
  | startedSend => exact admits_begun (admits.gate nofun) (admits.underWay rfl) rfl
  | startedReceive => exact admits_begun (admits.gate nofun) (admits.underWay rfl) rfl
  | starting => exact admits_begun (admits.gate nofun) (admits.underWay rfl) rfl
  | started => exact admits_begun (admits.gate nofun) (admits.underWay rfl) rfl
  | late => exact admits_begun (admits.gate nofun) (admits.underWay rfl) rfl
  | cancelling => exact admits_begun (admits.gate nofun) (admits.underWay rfl) rfl
  | woken => exact admits_begun (admits.gate nofun) (admits.underWay rfl) rfl
  | waiting => exact admits_begun (admits.gate nofun) (admits.underWay rfl) rfl

theorem CallerTurns.begun_stays {link after : Link slots size} {exchange : Exchange} {id : TaskId}
    {point later : CallerPoint} (turns : CallerTurns link id exchange point (.next after later))
    (begun : point.begun = true) : later.begun = true := by
  cases turns with
  | silence => cases begun
  | enter => cases begun
  | silenceLock => cases begun
  | silenced => cases begun
  | silencing => cases begun
  | reserving => cases begun
  | _ => rfl

theorem CallerTurns.gate_before {link : Link slots size} {exchange : Exchange} {id : TaskId}
    {point : CallerPoint} {turn : CallerTurn slots size}
    (turns : CallerTurns link id exchange point turn) (moves : turn ≠ .wait)
    (admits : link.Admits id point) :
    link.gate.holder = none ∨ link.gate.holder = some id := by
  by_cases atGate : point = .gate
  · subst atGate
    left
    cases turns with
    | wait => exact absurd rfl moves
    | silence free => exact Option.isNone_iff_eq_none.mp free
    | enter free => exact Option.isNone_iff_eq_none.mp free
  · exact .inr (admits.gate atGate)

/-- The event side leaves the gate alone, keeps an idle phase idle, and leaves a
transaction that is under way under way. -/
structure KeepsOrder (link after : Link slots size) : Prop where
  gate : after.gate = link.gate
  idle : link.phase = .idle → after.phase = .idle
  underWay : link.phase.underWay = true → after.phase.underWay = true

theorem KeepsOrder.of_eq {link after : Link slots size} (gate : after.gate = link.gate)
    (phase : after.phase = link.phase) : KeepsOrder link after where
  gate := gate
  idle := fun idle => phase.trans idle
  underWay := fun underWay => by rw [phase]; exact underWay

theorem KeepsOrder.trans {link middle after : Link slots size} (first : KeepsOrder link middle)
    (second : KeepsOrder middle after) : KeepsOrder link after where
  gate := second.gate.trans first.gate
  idle := fun idle => second.idle (first.idle idle)
  underWay := fun underWay => second.underWay (first.underWay underWay)

theorem KeepsOrder.admits {link after : Link slots size} (keeps : KeepsOrder link after)
    {id : TaskId} {point : CallerPoint} (admits : link.Admits id point) :
    after.Admits id point where
  gate := fun past => by rw [keeps.gate]; exact admits.gate past
  idle := fun past before => keeps.idle (admits.idle past before)
  underWay := fun begun => keeps.underWay (admits.underWay begun)

theorem onEvent_idle (event : Event) :
    Phase.onEvent event .idle = (.idle, .empty, .spurious) := by
  cases event <;> rfl

theorem onEvent_underWay (event : Event) {phase : Phase} (underWay : phase.underWay = true) :
    (phase.onEvent event).1.underWay = true := by
  cases phase with
  | idle => cases underWay
  | abandoned slot => cases underWay
  | sending slot => cases event <;> cases slot <;> rfl
  | waitingResponse slot => cases event <;> rfl
  | delivering => cases event <;> rfl
  | finished outcome => cases event <;> rfl

theorem keepsOrder_observed {link : Link slots size} {event : Event} {phase : Phase}
    {flags : Status} {reaction : Reaction}
    (moved : link.phase.onEvent event = (phase, flags, reaction)) :
    KeepsOrder link (link.observed phase flags) where
  gate := rfl
  idle := fun idle => by
    rw [idle, onEvent_idle] at moved
    cases moved
    rfl
  underWay := fun underWay => by
    have kept := onEvent_underWay event underWay
    rw [moved] at kept
    exact kept

theorem Feeding.keepsOrder {link : Link slots size} {event : Event}
    {turn : InterruptTurn slots size} (fed : Feeding link event turn) :
    turn.Leaves (KeepsOrder link) := by
  cases fed with
  | passed moved => exact keepsOrder_observed moved
  | signalled moved => exact (keepsOrder_observed moved).trans (.of_eq rfl rfl)
  | copying moved => exact keepsOrder_observed moved
  | released moved => exact (keepsOrder_observed moved).trans (.of_eq rfl rfl)
  | drained moved =>
      exact (keepsOrder_observed moved).trans
        (.of_eq (releaseSlot?_gate _ _) (releaseSlot?_phase _ _))

theorem FeedingAll.keepsOrder {link : Link slots size} {events : List Event}
    {turn : InterruptTurn slots size} (fed : FeedingAll link events turn) :
    turn.Leaves (KeepsOrder link) := by
  induction fed with
  | nil => exact .of_eq rfl rfl
  | last fed => exact fed.keepsOrder
  | cons fed later ih =>
      have first : KeepsOrder _ _ := fed.keepsOrder
      exact ih.mono fun after second => first.trans second

theorem keepsOrder_finishCopy (link : Link slots size) (outcome : Outcome) :
    KeepsOrder link (link.finishCopy outcome).2 := by
  unfold finishCopy
  split
  · rename_i delivering
    exact ⟨rfl, fun idle => (by rw [delivering] at idle; cases idle), fun _ => rfl⟩
  · rename_i abandoned
    exact ⟨rfl, fun _ => rfl, fun underWay => (by rw [abandoned] at underWay; cases underWay)⟩
  · exact .of_eq rfl rfl

theorem CopyEnding.keepsOrder {link : Link slots size} {slot : Slot}
    {copied : Except (Error BusFault) Bool} {turn : InterruptTurn slots size}
    (ended : CopyEnding link slot copied turn) : turn.Leaves (KeepsOrder link) := by
  have kept := keepsOrder_finishCopy link (copyOutcome copied)
  cases ended with
  | stale other =>
      rw [other] at kept
      exact kept.trans (.of_eq rfl rfl)
  | handover current =>
      rw [current] at kept
      exact kept.trans (.of_eq rfl rfl)
  | queued current =>
      rw [current] at kept
      refine kept.trans ?_
      unfold enqueue
      split <;> exact .of_eq rfl rfl
  | dropped current =>
      rw [current] at kept
      exact kept.trans (.of_eq rfl rfl)

theorem CopyEnding.keepsOrder_after {link middle : Link slots size} {slot : Slot}
    {copied : Except (Error BusFault) Bool} {turn : InterruptTurn slots size}
    (ended : CopyEnding middle slot copied turn) (gate : middle.gate = link.gate)
    (phase : middle.phase = link.phase) : turn.Leaves (KeepsOrder link) :=
  ended.keepsOrder.mono fun _ kept => (KeepsOrder.of_eq gate phase).trans kept

theorem InterruptTurns.keepsOrder {link : Link slots size} {self : TaskId}
    {point : InterruptPoint} {turn : InterruptTurn slots size}
    (turns : InterruptTurns link self point turn) : turn.Leaves (KeepsOrder link) := by
  cases turns with
  | wait => trivial
  | event fed => exact fed.keepsOrder
  | statusLock => exact .of_eq rfl rfl
  | readFailed => exact .of_eq rfl rfl
  | nothingPending => exact .of_eq rfl rfl
  | pending => exact .of_eq rfl rfl
  | clearFailed => exact .of_eq rfl rfl
  | cleared performed fed =>
      exact fed.keepsOrder.mono fun _ kept => ⟨kept.gate, kept.idle, kept.underWay⟩
  | copyLock => exact .of_eq rfl rfl
  | lengthFailed performed ended => exact ended.keepsOrder_after rfl rfl
  | length => exact .of_eq rfl rfl
  | tooLong free refused ended => exact ended.keepsOrder_after rfl rfl
  | bufferLock => exact .of_eq rfl rfl
  | frameFailed performed ended => exact ended.keepsOrder_after rfl rfl
  | unbuffered performed missing ended => exact ended.keepsOrder_after rfl rfl
  | refused performed found foreign ended => exact ended.keepsOrder_after rfl rfl
  | accepted performed found decoded ended => exact ended.keepsOrder_after rfl rfl
  | handover => exact .of_eq rfl rfl

end Link

end UwbRadio
