import Mathlib
import UwbRadio.Proofs.Station.Conservation
import UwbRadio.Proofs.Station.Tasks

/-!
Buffers that get lost. Once an event has announced a frame, its buffer is known to the
call of the event side that copies the frame, and to nobody else. If that call is
dropped the buffer stays reserved: the caller, or the one after it, cleans up by the
phase, and the phase no longer has it.

The buffers that are lost are those in the hands of the calls that were dropped, no
more and no fewer, and nothing ever finds them again.
-/

namespace UwbRadio

namespace Station

variable {slots size capacity : Nat} {station after : Station slots size capacity}

/-- The processing of an answer is not dropped while it has the buffer. Callers and the
event side may be dropped anywhere. -/
def sparesAnswers : Rule slots size capacity
  | station, .cancel id =>
      (station.task? id).all fun task => task.servesEvents || task.slot?.isNone
  | _, _ => true

def dropEvent (points : List InterruptPoint) (station : Station slots size capacity)
    (move : Move capacity) (_ : Station slots size capacity) : List InterruptPoint :=
  match move with
  | .cancel id =>
      match station.task? id with
      | some (.interrupt point) => point :: points
      | _ => points
  | _ => points

/-- The points at which calls of the event side were dropped in a run, latest first. -/
def eventsDropped (station : Station slots size capacity) (moves : List (Move capacity)) :
    List InterruptPoint :=
  recordOf dropEvent moves [] station

def lostAt (points : List InterruptPoint) : List Slot :=
  points.filterMap InterruptPoint.slot?

theorem lostAt_eq_nil {points : List InterruptPoint} :
    lostAt points = [] ↔ ∀ point ∈ points, point.slot? = none :=
  List.filterMap_eq_nil_iff

theorem lostAt_dropEvent {move : Move capacity} (allowed : sparesAnswers station move = true)
    (points : List InterruptPoint) :
    lostAt (dropEvent points station move after) = station.losing move ++ lostAt points := by
  cases move with
  | cancel id =>
      rw [sparesAnswers] at allowed
      rw [dropEvent, losing]
      cases found : station.task? id with
      | none => rfl
      | some task =>
          rw [found, Option.all_some] at allowed
          rw [Option.bind_some]
          cases task with
          | interrupt point =>
              have own : (Task.interrupt point).slot? = point.slot? := rfl
              rw [own]
              cases held : point.slot? with
              | none => exact List.filterMap_cons_none held
              | some slot => exact List.filterMap_cons_some held
          | process point =>
              have empty : (Task.process point).slot? = none :=
                Option.isNone_iff_eq_none.mp allowed
              rw [empty]
              rfl
          | _ => rfl
  | _ => rfl

/-- Each reserved buffer has one holder or is lost, and a free one has none. -/
theorem Balances.count_holders {lost : List Slot} (balances : station.Balances lost)
    (slot : Slot) :
    station.holders.count slot + lost.count slot =
      (station.link.pool.isOwned slot.index).toNat := by
  have counted := balances.balanced slot
  rw [List.count_append, List.count_append, Pool.tally] at counted
  rw [holders, List.count_append, List.count_append]
  omega

theorem Balances.of_lost {lost : List Slot} {slot : Slot} (balances : station.Balances lost)
    (gone : slot ∈ lost) :
    station.link.pool.isOwned slot.index = true ∧ slot ∉ station.holders := by
  have counted := balances.count_holders slot
  have present := List.count_pos_iff.mpr gone
  have bound := Bool.toNat_le (station.link.pool.isOwned slot.index)
  refine ⟨?_, List.count_eq_zero.mp (by omega)⟩
  cases owned : station.link.pool.isOwned slot.index with
  | true => rfl
  | false =>
      rw [owned, Bool.toNat_false] at counted
      omega

theorem Balances.kept_of_slot? {lost : List Slot} {slot : Slot} (balances : station.Balances lost)
    (reserved : station.link.phase.slot? = some slot) : slot ∉ lost := by
  intro gone
  apply (balances.of_lost gone).2
  rw [holders, Link.claims, reserved]
  exact List.mem_cons_self

theorem Balances.count_of_kept {lost : List Slot} {slot : Slot} (balances : station.Balances lost)
    (kept : slot ∉ lost) (owned : station.link.pool.isOwned slot.index = true) :
    station.holders.count slot = 1 := by
  have counted := balances.count_holders slot
  rw [List.count_eq_zero.mpr kept, owned] at counted
  exact counted

/-- The buffers in the hands of the tasks that were dropped in a run, latest first. -/
def lostBy (station : Station slots size capacity) (moves : List (Move capacity)) : List Slot :=
  recordOf (fun lost station move _ => station.losing move ++ lost) moves [] station

/-- A run loses what its drops take along, and what was lost before stays lost. -/
theorem Balances.run {rule : Rule slots size capacity} {moves : List (Move capacity)}
    {lost : List Slot} (balances : station.Balances lost)
    (ran : run? rule moves station = some after) :
    after.Balances (station.lostBy moves ++ lost) := by
  refine run?_invariant (fun more station move _ => station.losing move ++ more)
    (fun more station => station.Balances (more ++ lost)) ?_ moves [] balances ran
  intro more station move next balances _ moved
  rw [List.append_assoc]
  exact balances.move moved

/-- In every run in which callers and calls of the event side are dropped anywhere: each
reserved buffer has exactly one holder, unless it was in the hands of a call of the event
side that was dropped, and such a one has none, whatever follows. So every reserved
buffer has a holder exactly if no call was dropped that copied a frame or handed one
over. This holds in every state, also in those in which the next transaction has cleaned
up the phase. -/
theorem buffers_have_holders_iff_no_copy_dropped {opened station : Station slots size capacity}
    {moves : List (Move capacity)} (fresh : opened.Fresh)
    (ran : run? sparesAnswers moves opened = some station) :
    (∀ slot, station.holders.count slot + (lostAt (opened.eventsDropped moves)).count slot =
      (station.link.pool.isOwned slot.index).toNat) ∧
    ((∀ slot, station.link.pool.isOwned slot.index = true → slot ∈ station.holders) ↔
      ∀ point ∈ opened.eventsDropped moves, point.slot? = none) ∧
    ∀ later after, run? sparesAnswers later station = some after →
      ∀ slot ∈ lostAt (opened.eventsDropped moves),
        after.link.pool.isOwned slot.index = true ∧ slot ∉ after.holders := by
  have balances : station.Balances (lostAt (opened.eventsDropped moves)) := by
    refine run?_invariant dropEvent
      (fun points station => station.Balances (lostAt points)) ?_ moves []
      (balances_of_fresh fresh) ran
    intro points station move next balances allowed moved
    rw [lostAt_dropEvent allowed]
    exact balances.move moved
  refine ⟨balances.count_holders, ?_, ?_⟩
  · rw [← lostAt_eq_nil]
    constructor
    · intro held
      refine List.eq_nil_iff_forall_not_mem.mpr fun slot gone => ?_
      obtain ⟨owned, unheld⟩ := balances.of_lost gone
      exact unheld (held slot owned)
    · intro nothing slot owned
      have counted := balances.count_holders slot
      rw [nothing, owned, List.count_nil, Bool.toNat_true] at counted
      exact List.count_pos_iff.mp (by omega)
  · intro later after ran slot gone
    exact (balances.run ran).of_lost (List.mem_append_right _ gone)

/-- A reception begins, and an interrupt is dropped while it waits for the registers. Then
the frame comes, and the next interrupt finds the registers taken as well. -/
def dropsInterrupt : List (Move capacity) :=
  [.submit 1 (.receive .blocking 0), .step 1, .step 1, .step 1, .submit 2 .serveInterrupt,
    .cancel 2, .submit 3 (.feed .received), .step 3, .submit 4 .serveInterrupt, .cancel 4]

theorem dropped_interrupts_lose_nothing :
    ∃ opened station : Station 2 127 0,
      opened.Fresh ∧ run? sparesAnswers dropsInterrupt opened = some station ∧
      (opened.eventsDropped dropsInterrupt : List InterruptPoint) = [.statusLock, .statusLock] ∧
      station.link.pool.isOwned 0 = true ∧ inHands station.tasks = [⟨0⟩] ∧
      ∀ slot, station.link.pool.isOwned slot.index = true → slot ∈ station.holders := by
  have evaluated : (do
      let opened : Station 2 127 0 ← open? Device.unused {} .transfer
      let station ← run? sparesAnswers dropsInterrupt opened
      return (opened.eventsDropped dropsInterrupt, station.link.pool.isOwned 0,
        inHands station.tasks)) =
      some ([.statusLock, .statusLock], true, [⟨0⟩]) := by
    cbv
  obtain ⟨opened, isOpen, evaluated⟩ := Option.bind_eq_some_iff.mp evaluated
  obtain ⟨station, ran, evaluated⟩ := Option.bind_eq_some_iff.mp evaluated
  have seen := Option.some.inj evaluated
  simp only [Prod.mk.injEq] at seen
  obtain ⟨dropped, owned, hands⟩ := seen
  have fresh := fresh_of_open? isOpen
  have holders := (buffers_have_holders_iff_no_copy_dropped fresh ran).2.1
  refine ⟨opened, station, fresh, ran, dropped, owned, hands, holders.mpr ?_⟩
  rw [dropped]
  decide

/-- The call that is about to copy the frame of a reception is dropped, and the reception
runs out of time. The next send silences the radio and begins. -/
def dropsCopy : List (Move capacity) :=
  [[.submit 1 (.receive (.timeout 10) 0)], List.replicate 8 (.step 1),
    [.submit 2 (.feed .received), .step 2, .cancel 2, .disturb (.pass 10), .step 1,
      .submit 3 (.send (Request.ofPayload [0x68, 0x69]))], List.replicate 5 (.step 3)].flatten

/-- The buffer of a copy that was dropped is reserved and has no holder, though the next
transaction has begun. -/
theorem dropped_copy_loses_its_buffer :
    ∃ opened station : Station 2 127 0,
      opened.Fresh ∧ run? sparesAnswers dropsCopy opened = some station ∧
      (opened.eventsDropped dropsCopy : List InterruptPoint) = [.copyLock ⟨0⟩] ∧
      station.begun 3 = true ∧ station.link.pool.isOwned 0 = true ∧ station.holders = [] := by
  have evaluated : (do
      let opened : Station 2 127 0 ← open? Device.unused {} .transfer
      let station ← run? sparesAnswers dropsCopy opened
      return (opened.eventsDropped dropsCopy, station.begun 3, station.link.pool.isOwned 0,
        station.holders)) = some ([.copyLock ⟨0⟩], true, true, []) := by
    cbv
  obtain ⟨opened, isOpen, evaluated⟩ := Option.bind_eq_some_iff.mp evaluated
  obtain ⟨station, ran, evaluated⟩ := Option.bind_eq_some_iff.mp evaluated
  have seen := Option.some.inj evaluated
  simp only [Prod.mk.injEq] at seen
  exact ⟨opened, station, fresh_of_open? isOpen, ran, seen⟩

end Station

end UwbRadio
