import Mathlib
import UwbRadio.Proofs.Link.Drain
import UwbRadio.Proofs.Link.Faults
import UwbRadio.Proofs.Station.Between
import UwbRadio.Proofs.Station.Loss
import UwbRadio.Proofs.Station.Report

/-!
A send that cannot be started. It gives its number back and shows a fault. A transmit
fault leaves the phase idle: the buffer of the transaction is free if no event has taken
it, and otherwise it is where the event side has brought it, which may be further than
the copy of a frame. Flags that events have set before the start failed are not taken
back, so that the fault is the only one shown if they had set none.
-/

namespace UwbRadio

namespace Link

variable {slots size : Nat} {link : Link slots size}

theorem failed_phase_transmitFault (link : Link slots size) (counted : Bool) :
    (link.failed .transmitFault counted).phase = .idle :=
  releaseSlot?_phase _ _

private theorem releaseSlot?_pool {other : Link slots size} (same : other.pool = link.pool)
    (slot : Option Slot) : (other.releaseSlot? slot).pool = (link.releaseSlot? slot).pool := by
  cases slot with
  | none => exact same
  | some slot => exact congrArg (fun pool => pool.release slot) same

/-- After a transmit fault what the phase had is free, and nothing else. -/
theorem failed_owned (link : Link slots size) (counted : Bool) (index : Nat) :
    (link.failed .transmitFault counted).pool.isOwned index = link.reservedBeside index := by
  have pool : (link.failed .transmitFault counted).pool = link.discardPhase.pool := by
    apply releaseSlot?_pool
    rfl
  have idle : link.discardPhase.phase.slot? = none := by rw [discardPhase_phase]; rfl
  have free := congrFun link.beside_discardPhase index
  rw [reservedBeside, idle] at free
  rw [pool, ← free]
  exact (Bool.and_true _).symm

theorem flags_of_unfaulted (intime : link.state ≠ .timedOut) (unfaulted : link.state ≠ .faulted) :
    link.phase.flags = .empty := by
  cases kind : link.phase with
  | finished outcome =>
      rw [state, kind] at intime unfaulted
      cases outcome with
      | completed => rfl
      | receiveTimeout => exact absurd rfl intime
      | receiveFault => exact absurd rfl unfaulted
      | requestTimeout => exact absurd rfl intime
  | _ => rfl

end Link

namespace Station

variable {slots size capacity : Nat} {station after : Station slots size capacity} {id : TaskId}
  {exchange : Exchange} {number : UInt8}

/-- Who has a buffer that the phase has given away: a task that copies its frame or hands it
over, the queue, or a consumer of the queue, which is a task or the application. -/
inductive KeptBy (station : Station slots size capacity) (unqueued : List Slot) (slot : Slot) :
    Prop
  | copy {other : TaskId} {point : InterruptPoint}
      (present : (other, .interrupt point) ∈ station.tasks) (has : point.slot? = some slot) :
      KeptBy station unqueued slot
  | queue (queued : ⟨slot⟩ ∈ station.link.queue.items) : KeptBy station unqueued slot
  | processing {other : TaskId} (present : (other, .process (.buffer ⟨slot⟩)) ∈ station.tasks) :
      KeptBy station unqueued slot
  | application (has : slot ∈ station.held) (got : slot ∈ unqueued) : KeptBy station unqueued slot

theorem keptBy_of_holder {unqueued : List Slot} {slot : Slot} (holds : slot ∈ station.holders)
    (idle : station.link.phase.slot? = none)
    (got : slot ∈ station.held → slot ∈ unqueued) : station.KeptBy unqueued slot := by
  rw [holders, Link.claims, idle, Option.toList_none, List.nil_append, List.mem_append,
    List.mem_append] at holds
  rcases holds with queued | hands | has
  · obtain ⟨item, present, rfl⟩ := List.mem_map.mp queued
    exact .queue present
  · obtain ⟨⟨other, task⟩, present, has⟩ := List.mem_filterMap.mp hands
    cases task with
    | interrupt point => exact .copy present has
    | process point =>
        cases point with
        | buffer item =>
            cases has
            exact .processing present
        | _ => cases has
    | _ => cases has
  · exact .application has (got has)

/-- The buffers that the application has got in a run, those that were free until then and
those that were queued. -/
structure GainLog where
  reserved : List Slot := []
  unqueued : List Slot := []

def GainLog.note (log : GainLog) (station : Station slots size capacity) (_ : Move capacity)
    (after : Station slots size capacity) : GainLog where
  reserved := after.held.filter (fun slot => !station.link.pool.isOwned slot.index) ++
    log.reserved
  unqueued := after.held.filter
    (fun slot => (station.link.queue.items.map Ranging.WorkItem.slot).contains slot) ++
    log.unqueued

theorem Orderly.held_of_move (orderly : station.Orderly) {move : Move capacity} {slot : Slot}
    (moved : station.move? move = some after) (has : slot ∈ after.held) :
    slot ∈ station.held ∨ station.link.pool.isOwned slot.index = false ∨
      slot ∈ station.link.queue.items.map Ranging.WorkItem.slot := by
  cases move?_moved orderly.distinct moved with
  | @step id after task next given front back stepped =>
      rw [stepped.heldAfter] at has
      cases given with
      | none => exact .inl has
      | some other =>
          rcases List.mem_cons.mp has with rfl | earlier
          · cases stepped.effect with
            | reserved reserved => exact .inr (.inl (Pool.reserve_reserves reserved).free)
          · exact .inl (List.mem_of_mem_erase earlier)
  | cancel _ _ _ _ heldAfter => exact .inl (heldAfter ▸ has)
  | submit _ _ _ _ heldAfter => exact .inl (heldAfter ▸ has)
  | process _ _ _ _ heldAfter => exact .inl (List.mem_of_mem_erase (heldAfter ▸ has))
  | action noTask acted tasksAfter =>
      generalize after.link = link at acted
      generalize after.held = later at acted has
      cases acted with
      | reserved reserved =>
          rcases List.mem_cons.mp has with rfl | earlier
          · exact .inr (.inl (Pool.tryReserve_reserves reserved).free)
          · exact .inl (List.mem_of_mem_erase earlier)
      | @popped item queue popped =>
          rcases List.mem_cons.mp has with rfl | earlier
          · unfold Ranging.Queue.pop? at popped
            split at popped
            · cases popped
            · rename_i first rest queued
              cases popped
              rw [queued]
              exact .inr (.inr List.mem_cons_self)
          · exact .inl (List.mem_of_mem_erase earlier)
      | released _ => exact .inl (List.mem_of_mem_erase has)
      | pushed _ _ => exact .inl (List.mem_of_mem_erase has)
      | _ => exact .inl has

/-- What the application has it had at first, or it has got it since. -/
structure Gained (first : List Slot) (log : GainLog) (station : Station slots size capacity) :
    Prop where
  orderly : station.Orderly
  held : ∀ slot ∈ station.held, slot ∈ first ∨ slot ∈ log.reserved ∨ slot ∈ log.unqueued

theorem Gained.move {first : List Slot} {log : GainLog} {move : Move capacity}
    (gained : Gained first log station) (moved : station.move? move = some after) :
    Gained first (log.note station move after) after where
  orderly := gained.orderly.move moved
  held := by
    intro slot has
    rw [GainLog.note]
    rcases gained.orderly.held_of_move moved has with had | free | queued
    · exact (gained.held slot had).imp_right
        (Or.imp (List.mem_append_right _) (List.mem_append_right _))
    · refine .inr (.inl (List.mem_append_left _ (List.mem_filter.mpr ⟨has, ?_⟩)))
      rw [free]
      rfl
    · refine .inr (.inr (List.mem_append_left _ (List.mem_filter.mpr ⟨has, ?_⟩)))
      exact List.contains_iff_mem.mpr queued

theorem Gained.run {rule : Rule slots size capacity} {moves : List (Move capacity)}
    (orderly : station.Orderly) (ran : run? rule moves station = some after) :
    Gained station.held (recordOf GainLog.note moves {} station) after :=
  run?_invariant GainLog.note (Gained station.held)
    (fun _ _ _ _ gained _ moved => gained.move moved) moves {}
    ⟨orderly, fun _ has => .inl has⟩ ran

theorem Orderly.held_of_call (orderly : station.Orderly) {point : CallerPoint}
    (calls : station.call? id = some (exchange, point))
    (moved : station.move? (.step id) = some after) : after.held = station.held := by
  cases move?_moved orderly.distinct moved with
  | @step _ _ task next given front back stepped =>
      rw [stepped.heldAfter]
      rw [call?_of_task stepped.renames.before] at calls
      cases stepped.effect with
      | reserved => cases calls
      | _ => rfl
  | action noTask => cases noTask

/-- What the phase had, the application can only have got since. -/
theorem Balances.got_since {lost : List Slot} {rule : Rule slots size capacity}
    {moves : List (Move capacity)} {slot : Slot} (balances : station.Balances lost)
    (reserved : station.link.phase.slot? = some slot)
    (ran : run? rule moves station = some after) (held : slot ∈ after.held) :
    slot ∈ (recordOf GainLog.note moves {} station).reserved ∨
      slot ∈ (recordOf GainLog.note moves {} station).unqueued := by
  have claimed : slot ∈ station.link.claims := by
    rw [Link.claims, reserved]
    exact List.mem_cons_self
  have behind : slot ∉ station.held := fun first =>
    balances.balanced.claimed_not_held claimed (List.mem_append_left _ first)
  exact ((Gained.run balances.orderly ran).held slot held).resolve_left behind

/-- The fault of a start that fails. Between the begin of the send and the failure any
events may be fed in and any other task may be dropped; that no transaction begins only
says that it is the same send. The counter has its old value, the state shows the fault,
and the flags show it too, beside that of the outcome if an event had ended the
transaction. After a transmit fault the buffer that the send had reserved is free if the
phase still had it. Unless a dropped task took it along, it is free or has just one
holder, and if the application has not reserved it again since, that is the copy, the queue
or a consumer of the queue. -/
theorem failed_start_reports_its_fault {opened preparing started before after :
      Station slots size capacity} {rule : Rule slots size capacity}
    {earlier moves : List (Move capacity)} {request : Request} {at_ point : CallerPoint}
    {error : Error BusFault} (fresh : opened.Fresh)
    (reached : run? rule earlier opened = some preparing)
    (unbegun : preparing.begun id = false) (begins : preparing.step? id = some started)
    (asks : started.call? id = some (.send request, at_)) (begun : at_.begun = true)
    (ran : run? opensNone moves started = some before)
    (calls : before.call? id = some (.send request, point)) (running : point.begun = true)
    (starting : point.awaitsEnd = false)
    (returns : before.returns? id = some (.send request, .error error))
    (moved : before.move? (.step id) = some after) :
    let log := recordOf GainLog.note moves {} started
    (error = .transmitFault ∨ ∃ fault, error = .bus fault) ∧
    after.link.sequence = preparing.link.sequence ∧
    after.link.state = .faulted ∧
    after.link.status =
      (Status.initialized.insert before.link.phase.flags).insert error.startFlag ∧
    (before.link.state ≠ .timedOut → before.link.state ≠ .faulted →
      before.link.phase.flags = .empty) ∧
    (error = .transmitFault →
      after.link.phase = .idle ∧
      ∀ slot, started.link.phase.slot? = some slot →
        (before.link.phase.slot? = some slot → after.link.pool.isOwned slot.index = false) ∧
        (slot ∉ started.lostBy moves → after.link.pool.isOwned slot.index = true →
          after.holders.count slot = 1 ∧
            (slot ∉ log.reserved → after.KeptBy log.unqueued slot))) := by
  intro log
  have started_ : preparing.move? (.step id) = some started := begins
  have first : preparing.Telling := (telling_of_fresh fresh).run reached
  have telling : before.Telling := (first.move started_).run ran
  have begunAt : before.Running preparing.link.sequence id (.send request) :=
    run?_keeps (Running preparing.link.sequence id (.send request))
      (fun _ _ _ running allowed moved => running.move allowed moved)
      (first.orderly.running unbegun begins asks begun) ran
  have sequence := (begunAt.alone id (.send request) point calls running).2.2
  rcases telling.orderly.caller_steps calls moved with ⟨later, stepped⟩ | ⟨result, stepped⟩
  · rw [returns?_of_next calls stepped] at returns
    cases returns
  · rw [returns?_of_done calls stepped] at returns
    cases returns
    have underWay := (telling.orderly.admits_call calls).underWay running
    obtain ⟨bus, failure, left, told, kind⟩ :=
      (Link.callerTurns_of_eq stepped).fails_start running starting
    cases told
    refine ⟨kind, ?_, ?_, ?_, Link.flags_of_unfaulted, ?_⟩
    · rw [left]
      exact (Link.failed_sequence _ _ _).trans (Link.sequence_undone sequence)
    · rw [left]
      exact Link.failed_state _ _ _
    · rw [left, ← telling.flagged.underWay underWay]
      exact Link.failed_status _ _ _
    · rintro rfl
      have idle : after.link.phase = .idle := left ▸ Link.failed_phase_transmitFault _ _
      refine ⟨idle, ?_⟩
      intro slot reserved
      refine ⟨?_, ?_⟩
      · intro had
        have same : { before.link with bus }.phase.slot? = some slot := had
        rw [left, Link.failed_owned, Link.reservedBeside, same, bne_self_eq_false, Bool.and_false]
      · intro kept owned
        have balances : started.Balances (opened.lostBy earlier ++ []) :=
          ((balances_of_fresh fresh).run reached).move started_
        have unlost := balances.kept_of_slot? reserved
        have ends : after.Balances (started.lostBy moves ++ (opened.lostBy earlier ++ [])) :=
          (balances.run ran).move moved
        have once := ends.count_of_kept (List.not_mem_append kept unlost) owned
        refine ⟨once, fun new => ?_⟩
        have has : slot ∈ after.holders := List.count_pos_iff.mp (once ▸ Nat.one_pos)
        refine keptBy_of_holder has (by rw [idle]; rfl) fun held => ?_
        rw [telling.orderly.held_of_call calls moved] at held
        exact (balances.got_since reserved ran held).resolve_left new

def expectsAnswer : List (Move capacity) :=
  [.submit 1 (.send ((Request.ofPayload [0x68, 0x69]).expectResponse 0)), .step 1]

/-- After what is reported first, the send starts the hardware, which warns that the start
comes too late. One access is left to take the start back. -/
def startsLate (reports : List (Move capacity)) : List (Move capacity) :=
  reports ++ .disturb (.registers (RegisterFile.powerUp.raise Bits.halfPeriodWarning)) ::
    List.replicate 10 (.step 1)

def reportsSent : List (Move capacity) := [.submit 2 (.feed .sent), .step 2]

theorem late_start_frees_its_buffer :
    ∃ opened preparing started before after : Station 2 127 0,
      opened.Fresh ∧ run? sparesHolders expectsAnswer opened = some preparing ∧
      preparing.step? 1 = some started ∧ started.link.phase.slot? = some ⟨0⟩ ∧
      run? opensNone (startsLate reportsSent) started = some before ∧
      before.returns? 1 = some (.send ((Request.ofPayload [0x68, 0x69]).expectResponse 0),
        .error .transmitFault) ∧
      before.move? (.step 1) = some after ∧
      after.link.sequence = preparing.link.sequence ∧ after.link.state = .faulted ∧
      after.link.status = Status.initialized.insert Status.startError ∧
      after.link.pool.isOwned 0 = false := by
  have evaluated : (do
      let opened : Station 2 127 0 ← open? Device.unused {} .transfer
      let preparing ← run? sparesHolders expectsAnswer opened
      let started ← preparing.step? 1
      let before ← run? opensNone (startsLate reportsSent) started
      let _ ← before.move? (.step 1)
      let call ← started.call? 1
      return (preparing.begun 1, started.link.phase.slot?, before.link.phase, before.call? 1,
        before.returns? 1, call.1, call.2.begun)) =
      some (false, some ⟨0⟩, .waitingResponse ⟨0⟩,
        some (.send ((Request.ofPayload [0x68, 0x69]).expectResponse 0),
          .cancelling [.write Register.systemStatus Bits.halfPeriodWarning]),
        some (.send ((Request.ofPayload [0x68, 0x69]).expectResponse 0), .error .transmitFault),
        .send ((Request.ofPayload [0x68, 0x69]).expectResponse 0), true) := by
    cbv
  obtain ⟨opened, isOpen, evaluated⟩ := Option.bind_eq_some_iff.mp evaluated
  obtain ⟨preparing, reached, evaluated⟩ := Option.bind_eq_some_iff.mp evaluated
  obtain ⟨started, begins, evaluated⟩ := Option.bind_eq_some_iff.mp evaluated
  obtain ⟨before, ran, evaluated⟩ := Option.bind_eq_some_iff.mp evaluated
  obtain ⟨after, moved, evaluated⟩ := Option.bind_eq_some_iff.mp evaluated
  obtain ⟨⟨exchange, at_⟩, asks, evaluated⟩ := Option.bind_eq_some_iff.mp evaluated
  have seen := Option.some.inj evaluated
  simp only [Prod.mk.injEq] at seen
  obtain ⟨unbegun, reserved, phase, calls, returns, rfl, begun⟩ := seen
  have fresh := fresh_of_open? isOpen
  obtain ⟨_, sequence, state, status, _, buffers⟩ := failed_start_reports_its_fault fresh reached
    unbegun begins asks begun ran calls rfl rfl returns moved
  rw [phase] at status
  have freed := ((buffers rfl).2 ⟨0⟩ reserved).1 (by rw [phase]; rfl)
  exact ⟨opened, preparing, started, before, after, fresh, reached, begins, reserved, ran,
    returns, moved, sequence, state, status, freed⟩

def arrivingEarly : Bytes :=
  LinkHeader.frame { sequence := 7, panId := 0, source := 1, destination := some 0 } [1, 2, 3]

def reportsFrame : List (Move capacity) :=
  .submit 2 (.feed .received) ::
    .disturb (.registers (RegisterFile.powerUp.receive arrivingEarly)) ::
    List.replicate 5 (.step 2)

def reportsTimeout : List (Move capacity) := [.submit 2 (.feed .receiveTimeout), .step 2]

/-- A send with a buffer of its own fails with a transmit fault after the reports, in a run
from opening that leaves the station `after`. -/
def LateStart (handler : Handler) (reports : List (Move 0)) (after : Station 2 127 0) : Prop :=
  ∃ opened preparing started before : Station 2 127 0,
    open? Device.unused {} handler = some opened ∧
    run? sparesHolders expectsAnswer opened = some preparing ∧
    preparing.step? 1 = some started ∧ started.link.phase.slot? = some ⟨0⟩ ∧
    run? opensNone (startsLate reports) started = some before ∧
    before.returns? 1 = some (.send ((Request.ofPayload [0x68, 0x69]).expectResponse 0),
      .error .transmitFault) ∧
    before.move? (.step 1) = some after

theorem lateStart_of_eq {handler : Handler} {reports : List (Move 0)} {view : Type}
    {look : Station 2 127 0 → view} {seen : view}
    (evaluated : (do
      let opened : Station 2 127 0 ← open? Device.unused {} handler
      let preparing ← run? sparesHolders expectsAnswer opened
      let started ← preparing.step? 1
      let before ← run? opensNone (startsLate reports) started
      let after ← before.move? (.step 1)
      return (started.link.phase.slot?, before.returns? 1, look after)) =
      some (some ⟨0⟩, some (.send ((Request.ofPayload [0x68, 0x69]).expectResponse 0),
        .error .transmitFault), seen)) :
    ∃ after, LateStart handler reports after ∧ look after = seen := by
  obtain ⟨opened, isOpen, evaluated⟩ := Option.bind_eq_some_iff.mp evaluated
  obtain ⟨preparing, reached, evaluated⟩ := Option.bind_eq_some_iff.mp evaluated
  obtain ⟨started, begins, evaluated⟩ := Option.bind_eq_some_iff.mp evaluated
  obtain ⟨before, ran, evaluated⟩ := Option.bind_eq_some_iff.mp evaluated
  obtain ⟨after, moved, evaluated⟩ := Option.bind_eq_some_iff.mp evaluated
  have found := Option.some.inj evaluated
  simp only [Prod.mk.injEq] at found
  obtain ⟨reserved, returns, looks⟩ := found
  exact ⟨after, ⟨opened, preparing, started, before, isOpen, reached, begins, reserved, ran,
    returns, moved⟩, looks⟩

theorem late_start_keeps_timeout :
    ∃ after, LateStart .ranging reportsTimeout after ∧ after.link.status =
      (Status.initialized.insert Status.startError).insert Status.receiveTimeout := by
  have evaluated : ∃ after, LateStart .ranging reportsTimeout after ∧
      after.link.status = ⟨0x07⟩ := lateStart_of_eq (by cbv)
  obtain ⟨after, left, status⟩ := evaluated
  exact ⟨after, left, status.trans (by decide)⟩

/-- After a transmit fault the buffer of the send is neither free nor with a running copy,
which has queued it, and in another run the flags show a receive timeout as well. -/
theorem failed_start_leaves_queued_frame_or_timeout :
    (∃ after, LateStart .ranging reportsFrame after ∧ after.link.pool.isOwned 0 = true ∧
      after.tasks = [] ∧ after.link.queue.items = [⟨⟨0⟩⟩]) ∧
    ∃ after, LateStart .ranging reportsTimeout after ∧ after.link.status =
      (Status.initialized.insert Status.startError).insert Status.receiveTimeout := by
  refine ⟨?_, late_start_keeps_timeout⟩
  have evaluated : ∃ after, LateStart .ranging reportsFrame after ∧
      (after.link.pool.isOwned 0, after.tasks, after.link.queue.items) = (true, [], [⟨⟨0⟩⟩]) :=
    lateStart_of_eq (by cbv)
  obtain ⟨after, left, seen⟩ := evaluated
  simp only [Prod.mk.injEq] at seen
  exact ⟨after, left, seen⟩

end Station

end UwbRadio
