import Mathlib
import UwbRadio.Proofs.Link.Flags
import UwbRadio.Proofs.Station.Calls

/-!
What a call reports. In every run, whatever events come early, late or repeatedly, the
result of a call that was starved or had started agrees with the flags and the state
that the link shows when the call returns.
-/

namespace UwbRadio

theorem Effect.flagged {slots size : Nat} {link after : Link slots size} {id : TaskId}
    {task : Task} {next : Option Task} {given : Option Slot}
    (effect : Effect link id task after next given)
    (admits : ∀ exchange point, task.call? = some (exchange, point) → link.Admits id point)
    (flagged : link.Flagged) : after.Flagged := by
  cases effect.part with
  | call calls stepped => exact (Link.callerTurns_of_eq stepped).flagged (admits _ _ calls) flagged
  | returned calls stepped =>
      exact (Link.callerTurns_of_eq stepped).flagged (admits _ _ calls) flagged
  | event stepped => exact (Link.interruptTurns_of_eq stepped).flagged flagged
  | handled stepped => exact (Link.interruptTurns_of_eq stepped).flagged flagged
  | aside _ _ _ linkAfter =>
      rw [linkAfter]
      exact flagged.congr rfl rfl

namespace Station

variable {slots size capacity : Nat} {station after : Station slots size capacity}

structure Telling (station : Station slots size capacity) : Prop where
  orderly : station.Orderly
  flagged : station.link.Flagged

theorem telling_of_fresh (fresh : station.Fresh) : station.Telling := by
  refine ⟨orderly_of_fresh fresh, ?_⟩
  obtain ⟨bus, sequence, info, config, handler, rfl⟩ := fresh.eq_ofLink
  have initialized : Status.initialized.remove Status.faults = Status.initialized := rfl
  exact Link.flagged_of_over initialized rfl

theorem Telling.move {move : Move capacity} (telling : station.Telling)
    (moved : station.move? move = some after) : after.Telling := by
  refine ⟨telling.orderly.move moved, ?_⟩
  have flagged := telling.flagged
  cases telling.orderly.happens moved with
  | step effect renames =>
      refine effect.flagged ?_ flagged
      intro exchange point calls
      exact telling.orderly.admits_task renames.before calls
  | cancel linkAfter =>
      rw [linkAfter]
      exact flagged.congr rfl rfl
  | call names outside quiet linkAfter =>
      rw [linkAfter]
      exact flagged
  | action noTask acted =>
      obtain ⟨bus, pool, queue, linkAfter⟩ := acted.frame
      rw [linkAfter]
      exact flagged.congr rfl rfl

theorem Telling.run {rule : Rule slots size capacity} {moves : List (Move capacity)}
    (telling : station.Telling) (ran : run? rule moves station = some after) : after.Telling :=
  run?_keeps Telling (fun _ _ _ telling _ moved => telling.move moved) telling ran

/-- The result of a call that ran out of time waiting for a buffer, or that had started,
agrees with the flags and the state that it leaves. -/
theorem result_agrees_with_flags_and_state {opened before after : Station slots size capacity}
    {rule : Rule slots size capacity} {moves : List (Move capacity)} {id : TaskId}
    {exchange : Exchange} {point : CallerPoint} {result : Except (Error BusFault) Status}
    (fresh : opened.Fresh) (ran : run? rule moves opened = some before)
    (calls : before.call? id = some (exchange, point)) (awaits : point.awaitsEnd = true)
    (returns : before.returns? id = some (exchange, result))
    (moved : before.move? (.step id) = some after) : after.link.Reports result := by
  have telling : before.Telling :=
    run?_keeps Telling (fun _ _ _ telling _ moved => telling.move moved)
      (telling_of_fresh fresh) ran
  rcases telling.orderly.caller_steps calls moved with ⟨later, stepped⟩ | ⟨ended, stepped⟩
  · rw [returns?_of_next calls stepped] at returns
    cases returns
  · rw [returns?_of_done calls stepped] at returns
    cases returns
    have admits := telling.orderly.admits_call calls
    exact (Link.callerTurns_of_eq stepped).reports admits telling.flagged awaits

def givesUpTwice : List (Move capacity) :=
  [.submit 1 (.receive (.timeout 10) 0), .step 1, .step 1, .step 1, .step 1, .step 1, .step 1,
    .step 1, .step 1, .submit 2 (.feed .receiveTimeout), .step 2, .disturb (.pass 10)]

theorem receive_timeout_agrees_with_flags_and_state :
    ∃ opened before after : Station 2 127 0,
      opened.Fresh ∧ run? dropsNothing givesUpTwice opened = some before ∧
      before.call? 1 = some (.receive (.timeout 10) 0, .waiting (.at 10)) ∧
      before.link.bus.clock = 10 ∧
      before.returns? 1 = some (.receive (.timeout 10) 0, .error .receiveTimeout) ∧
      before.move? (.step 1) = some after ∧ after.link.Reports (.error .receiveTimeout) := by
  have evaluated : (do
      let opened : Station 2 127 0 ← open? Device.unused {} .transfer
      let before ← run? dropsNothing givesUpTwice opened
      let _ ← before.move? (.step 1)
      return (before.call? 1, before.link.bus.clock, before.returns? 1)) =
      some (some (.receive (.timeout 10) 0, .waiting (.at 10)), 10,
        some (.receive (.timeout 10) 0, .error .receiveTimeout)) := by
    cbv
  obtain ⟨opened, isOpen, evaluated⟩ := Option.bind_eq_some_iff.mp evaluated
  obtain ⟨before, ran, evaluated⟩ := Option.bind_eq_some_iff.mp evaluated
  obtain ⟨after, moved, evaluated⟩ := Option.bind_eq_some_iff.mp evaluated
  have seen := Option.some.inj evaluated
  simp only [Prod.mk.injEq] at seen
  obtain ⟨calls, clock, returns⟩ := seen
  have fresh := fresh_of_open? isOpen
  exact ⟨opened, before, after, fresh, ran, calls, clock, returns, moved,
    result_agrees_with_flags_and_state fresh ran calls rfl returns moved⟩

end Station

end UwbRadio
