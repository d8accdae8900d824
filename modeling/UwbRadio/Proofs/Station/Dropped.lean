import Mathlib
import UwbRadio.Proofs.Station.Between

/-!
What a dropped send does to the counter. A send takes its number when its transaction
begins, and only the send itself gives it back. Dropped before it begins it has taken
none; dropped later it leaves the counter one ahead, for the next caller cleans up the
phase and not the counter.
-/

namespace UwbRadio

namespace Station

variable {slots size capacity : Nat} {station after : Station slots size capacity}

theorem Orderly.of_dropped {id : TaskId} (orderly : station.Orderly)
    (drops : station.move? (.cancel id) = some after) :
    after.link.sequence = station.link.sequence ∧
      ∃ task, station.Renames after id (some task) none := by
  cases orderly.happens drops with
  | cancel linkAfter renames =>
      rw [linkAfter]
      exact ⟨rfl, _, renames⟩
  | call names => cases names
  | action noTask => cases noTask

/-- When a call past the gate is dropped, all others wait at the gate. -/
theorem Orderly.unbegun_of_dropped {id : TaskId} {exchange : Exchange} {point : CallerPoint}
    (orderly : station.Orderly) (calls : station.call? id = some (exchange, point))
    (past : point ≠ .gate) (drops : station.move? (.cancel id) = some after) (other : TaskId) :
    after.begun other = false := by
  have holds := (orderly.admits_call calls).gate past
  obtain ⟨_, task, renames⟩ := orderly.of_dropped drops
  rw [begun_eq]
  cases asks : after.call? other with
  | none => rfl
  | some call =>
      have apart : other ≠ id := by
        rintro rfl
        rw [call?, renames.later] at asks
        cases asks
      rw [renames.stay_call apart] at asks
      rw [Option.any_some, at_gate_of_holder (.inr holds) apart (orderly.admits_call asks)]
      rfl

private theorem add_one_add_ne (number taken : UInt8) : number + 1 + taken ≠ number + taken := by
  grind

/-- After a send was dropped past the gate, whatever runs in between, the next
transaction to begin takes the number at which the send got the gate if the send had not
begun, and the one behind it if it had. A send dropped at the gate leaves the counter to
whoever is past it. -/
theorem number_after_dropped_send {opened waiting dropped preparing started :
      Station slots size capacity} {rule : Rule slots size capacity}
    {earlier moves : List (Move capacity)} {id next : TaskId} {request : Request}
    {exchange : Exchange} {point at_ : CallerPoint} (fresh : opened.Fresh)
    (reached : run? rule earlier opened = some waiting)
    (calls : waiting.call? id = some (.send request, point))
    (drops : waiting.move? (.cancel id) = some dropped)
    (ran : run? opensNone moves dropped = some preparing)
    (begins : preparing.step? next = some started)
    (asks : started.call? next = some (exchange, at_)) (begun : at_.begun = true) :
    let entered := (recordOf SendLog.note earlier .empty opened).entered id
    dropped.link.sequence = waiting.link.sequence ∧
    (point ≠ .gate →
      started.BeginsWith (entered + lead (.send request) point) exchange at_ ∧
      (started.BeginsWith entered exchange at_ ↔ point.begun = false)) := by
  intro entered
  have counted := counted_of_run fresh reached
  have kept := (counted.orderly.of_dropped drops).1
  refine ⟨kept, fun past => ?_⟩
  have left := (counted.move drops).between (counted.orderly.unbegun_of_dropped calls past drops)
  have takes := (left.run ran).begins begins asks begun
  rw [kept, counted.ahead id _ point calls past] at takes
  refine ⟨takes, fun returned => ?_, fun before => ?_⟩
  · cases taken : point.begun with
    | false => rfl
    | true =>
        have ahead := takes.counter
        rw [lead_begun _ taken, returned.counter] at ahead
        exact absurd ahead.symm (add_one_add_ne entered _)
  · rw [lead_before _ before, UInt8.add_zero] at takes
    exact takes

def waitsToSilence : List (Move capacity) :=
  [.submit 1 (.receive .blocking 0), .step 1, .step 1, .cancel 1,
    .submit 2 (.send (Request.ofPayload [0x68, 0x69])), .step 2, .submit 3 .serveInterrupt, .step 3]

theorem send_dropped_in_silence_takes_nothing :
    ∃ opened waiting dropped preparing started : Station 2 127 0, ∃ exchange point,
      opened.Fresh ∧ run? keepsSends waitsToSilence opened = some waiting ∧
      waiting.call? 2 = some (.send (Request.ofPayload [0x68, 0x69]), .silenceLock) ∧
      waiting.move? (.cancel 2) = some dropped ∧
      run? opensNone [.submit 4 (.send (Request.ofPayload [0x6f]))] dropped = some preparing ∧
      preparing.step? 4 = some started ∧ started.call? 4 = some (exchange, point) ∧
      started.BeginsWith ((recordOf SendLog.note waitsToSilence .empty opened).entered 2)
        exchange point := by
  have evaluated : (do
      let opened : Station 2 127 0 ← open? Device.unused {} .transfer
      let waiting ← run? keepsSends waitsToSilence opened
      let dropped ← waiting.move? (.cancel 2)
      let preparing ← run? opensNone [.submit 4 (.send (Request.ofPayload [0x6f]))] dropped
      let started ← preparing.step? 4
      let call ← started.call? 4
      return (waiting.call? 2, call.2.begun)) =
      some (some (.send (Request.ofPayload [0x68, 0x69]), .silenceLock), true) := by
    cbv
  obtain ⟨opened, isOpen, evaluated⟩ := Option.bind_eq_some_iff.mp evaluated
  obtain ⟨waiting, reached, evaluated⟩ := Option.bind_eq_some_iff.mp evaluated
  obtain ⟨dropped, drops, evaluated⟩ := Option.bind_eq_some_iff.mp evaluated
  obtain ⟨preparing, ran, evaluated⟩ := Option.bind_eq_some_iff.mp evaluated
  obtain ⟨started, begins, evaluated⟩ := Option.bind_eq_some_iff.mp evaluated
  obtain ⟨⟨exchange, point⟩, asks, evaluated⟩ := Option.bind_eq_some_iff.mp evaluated
  have seen := Option.some.inj evaluated
  simp only [Prod.mk.injEq] at seen
  obtain ⟨calls, begun⟩ := seen
  have fresh := fresh_of_open? isOpen
  have past : CallerPoint.silenceLock ≠ .gate := by
    intro atGate
    cases atGate
  have takes :=
    (number_after_dropped_send fresh reached calls drops ran begins asks begun).2 past
  exact ⟨opened, waiting, dropped, preparing, started, exchange, point, fresh, reached, calls,
    drops, ran, begins, asks, takes.2.mpr rfl⟩

def waitsForEnd : List (Move capacity) :=
  .submit 1 (.send (Request.ofPayload [0x68, 0x69])) :: List.replicate 7 (.step 1)

def silencesNext : List (Move capacity) :=
  .submit 2 (.send (Request.ofPayload [0x68, 0x69])) :: List.replicate 3 (.step 2)

/-- The send behind one that was dropped while it waited for its end takes number one,
though the dropped send had found zero at the gate. -/
theorem dropped_send_counts :
    ∃ opened waiting dropped preparing started : Station 2 127 0, ∃ frame deadline,
      opened.Fresh ∧ run? keepsSends waitsForEnd opened = some waiting ∧
      (recordOf SendLog.note waitsForEnd .empty opened).entered 1 = 0 ∧
      waiting.move? (.cancel 1) = some dropped ∧
      run? opensNone silencesNext dropped = some preparing ∧ preparing.step? 2 = some started ∧
      started.call? 2 =
        some (.send (Request.ofPayload [0x68, 0x69]), .startLock frame deadline) ∧
      preparing.link.sequence = 1 ∧ frameNumber? frame = some 1 := by
  have evaluated : (do
      let opened : Station 2 127 0 ← open? Device.unused {} .transfer
      let waiting ← run? keepsSends waitsForEnd opened
      let dropped ← waiting.move? (.cancel 1)
      let preparing ← run? opensNone silencesNext dropped
      let started ← preparing.step? 2
      return ((recordOf SendLog.note waitsForEnd .empty opened).entered 1,
        preparing.link.sequence, started.call? 2)) =
      some (0, 1, some (.send (Request.ofPayload [0x68, 0x69]), .startLock
        (LinkHeader.frame { sequence := 1, panId := 0, source := 0, destination := none }
          [0x68, 0x69]) .never)) := by
    cbv
  obtain ⟨opened, isOpen, evaluated⟩ := Option.bind_eq_some_iff.mp evaluated
  obtain ⟨waiting, reached, evaluated⟩ := Option.bind_eq_some_iff.mp evaluated
  obtain ⟨dropped, drops, evaluated⟩ := Option.bind_eq_some_iff.mp evaluated
  obtain ⟨preparing, ran, evaluated⟩ := Option.bind_eq_some_iff.mp evaluated
  obtain ⟨started, begins, evaluated⟩ := Option.bind_eq_some_iff.mp evaluated
  have seen := Option.some.inj evaluated
  simp only [Prod.mk.injEq] at seen
  obtain ⟨entered, counter, asks⟩ := seen
  have carries (header : LinkHeader) :
      frameNumber? (header.frame [0x68, 0x69]) = some header.sequence := by
    have fits : (header.frame [0x68, 0x69]).length + checkSequenceLength ≤ maxFrameLength := by
      rw [header.frame_length]
      decide
    rw [frameNumber?, decodeFrame?_frame header _ fits]
    rfl
  exact ⟨opened, waiting, dropped, preparing, started, _, _, fresh_of_open? isOpen, reached,
    entered, drops, ran, begins, asks, counter, carries _⟩

end Station

end UwbRadio
