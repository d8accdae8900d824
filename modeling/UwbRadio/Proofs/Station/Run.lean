import UwbRadio.Station.Step

/-!
Runs of a station: sequences of moves, in any order. A move is one step of one task,
a call or the end of one, an action of the application, or a change of the bus and
the device behind it. Nothing is said about who moves when, so a run stands for every
order in which waiting tasks may be served.

A rule says which moves a run may hold. A record is kept along a run to speak of what
has happened in it; `run?_invariant` proves a property of the record and the station
together, from one move to all runs.
-/

namespace UwbRadio

open Ranging (Table Range Session)

namespace Task

def starts (task : Task) : Bool :=
  match task with
  | .exchange _ point =>
      match point with
      | .gate => true
      | _ => false
  | .interrupt point =>
      match point with
      | .event _ | .statusLock => true
      | _ => false
  | .tick point =>
      match point with
      | .begin => true
      | _ => false
  | .schedule point =>
      match point with
      | .begin => true
      | _ => false
  | .process point =>
      match point with
      | .pop => true
      | _ => false
  | .outbound _ | .reserve => true

end Task

inductive Disturbance
  | faults (plan : FaultPlan)
  | stall (after : Option Nat)
  | pass (milliseconds : Nat)
  | registers (file : RegisterFile)

def Disturbance.alter : Disturbance → Bus → Bus
  | .faults plan, bus => { bus with transferFaults := plan }
  | .stall after, bus => { bus with stall := after }
  | .pass milliseconds, bus => { bus with clock := bus.clock + milliseconds }
  | .registers file, bus => { bus with registers := file }

/-- What may happen to a station next. -/
inductive Move (capacity : Nat)
  | step (id : TaskId)
  | submit (id : TaskId) (call : Task)
  | cancel (id : TaskId)
  | reserve
  | release (slot : Slot)
  | pop
  | push (slot : Slot)
  | process (id : TaskId) (slot : Slot)
  | offer (packet : Packet)
  | postprocess (enabled : Bool)
  | openSession (table : Table capacity) (config : RangingConfig)
      (estimator : Duration → Range) (forwards : Bool)
  | start
  | stop
  | readdress (nodes : List UInt16)
  | disturb (disturbance : Disturbance)

def Move.touchesSession {capacity : Nat} : Move capacity → Bool
  | .step _ | .openSession _ _ _ _ | .start | .stop | .readdress _ => true
  | _ => false

namespace Station

variable {slots size capacity : Nat}

def knows (station : Station slots size capacity) (id : TaskId) : Bool :=
  station.tasks.any fun entry => entry.1 == id

def readdress (station : Station slots size capacity) (nodes : List UInt16) :
    Station slots size capacity :=
  station.onSession fun session =>
    match (session.table.withAddresses nodes : Except (Error BusFault) (Table capacity)) with
    | .error _ => session
    | .ok table => { session with table }

/-- The station after a move, none if the move cannot be made: a task that has to
wait, a name that is in use, a buffer that the application does not have. -/
def move? (station : Station slots size capacity) :
    Move capacity → Option (Station slots size capacity)
  | .step id => station.step? id
  | .submit id call =>
      if station.knows id = false ∧ call.starts = true then some (station.submit id call)
      else none
  | .cancel id => if station.knows id then some (station.cancel id) else none
  | .reserve => some station.tryReserve.2
  | .release slot =>
      if slot ∈ station.held then some (station.releaseHeld slot) else none
  | .pop => some station.popQueued.2
  | .push slot => if slot ∈ station.held then some (station.pushHeld slot).2 else none
  | .process id slot =>
      if station.knows id = false ∧ slot ∈ station.held then
        some (station.processHeld id slot)
      else none
  | .offer packet => some (station.offer packet)
  | .postprocess enabled => some (station.setPostprocess enabled)
  | .openSession table config estimator forwards =>
      some (station.addSession
        (.ofTable table config estimator (if forwards then some [] else none))).2
  | .start => some (station.onSession Session.start)
  | .stop => some (station.onSession Session.stop)
  | .readdress nodes => some (station.readdress nodes)
  | .disturb disturbance => some (station.onBus disturbance.alter)

section

variable {station after : Station slots size capacity} {move : Move capacity}

private theorem spared_of_move? (moved : station.move? move = some after)
    (unstepped : ∀ id, move ≠ .step id) :
    ((∀ change, move ≠ .disturb change) → after.link.bus = station.link.bus) ∧
      (move.touchesSession = false → after.session = station.session) := by
  cases move with
  | step id => exact absurd rfl (unstepped id)
  | submit id call =>
      simp only [move?, Option.ite_none_right_eq_some, Option.some.injEq] at moved
      obtain ⟨_, rfl⟩ := moved
      exact ⟨fun _ => rfl, fun _ => rfl⟩
  | cancel id =>
      simp only [move?, Option.ite_none_right_eq_some, Option.some.injEq] at moved
      obtain ⟨_, rfl⟩ := moved
      exact ⟨fun _ => rfl, fun _ => rfl⟩
  | reserve =>
      cases moved
      unfold tryReserve
      split <;> exact ⟨fun _ => rfl, fun _ => rfl⟩
  | release slot =>
      simp only [move?, Option.ite_none_right_eq_some, Option.some.injEq] at moved
      obtain ⟨_, rfl⟩ := moved
      exact ⟨fun _ => rfl, fun _ => rfl⟩
  | pop =>
      cases moved
      unfold popQueued
      split <;> exact ⟨fun _ => rfl, fun _ => rfl⟩
  | push slot =>
      simp only [move?, Option.ite_none_right_eq_some, Option.some.injEq] at moved
      obtain ⟨_, rfl⟩ := moved
      unfold pushHeld
      split <;> exact ⟨fun _ => rfl, fun _ => rfl⟩
  | process id slot =>
      simp only [move?, Option.ite_none_right_eq_some, Option.some.injEq] at moved
      obtain ⟨_, rfl⟩ := moved
      exact ⟨fun _ => rfl, fun _ => rfl⟩
  | offer packet => cases moved; exact ⟨fun _ => rfl, fun _ => rfl⟩
  | postprocess enabled => cases moved; exact ⟨fun _ => rfl, fun _ => rfl⟩
  | disturb change =>
      cases moved
      exact ⟨fun undisturbed => absurd rfl (undisturbed change), fun _ => rfl⟩
  | openSession table config estimator forwards =>
      cases moved
      refine ⟨fun _ => ?_, fun spares => Bool.noConfusion spares⟩
      unfold addSession
      dsimp only
      split <;> rfl
  | start => cases moved; exact ⟨fun _ => rfl, fun spares => Bool.noConfusion spares⟩
  | stop => cases moved; exact ⟨fun _ => rfl, fun spares => Bool.noConfusion spares⟩
  | readdress nodes => cases moved; exact ⟨fun _ => rfl, fun spares => Bool.noConfusion spares⟩

theorem bus_of_move? (moved : station.move? move = some after)
    (unstepped : ∀ id, move ≠ .step id) (undisturbed : ∀ change, move ≠ .disturb change) :
    after.link.bus = station.link.bus :=
  (spared_of_move? moved unstepped).1 undisturbed

theorem session_of_move? (moved : station.move? move = some after)
    (spares : move.touchesSession = false) : after.session = station.session := by
  refine (spared_of_move? moved ?_).2 spares
  rintro id rfl
  cases spares

end

abbrev Rule (slots size capacity : Nat) :=
  Station slots size capacity → Move capacity → Bool

def dropsNothing : Rule slots size capacity
  | _, .cancel _ => false
  | _, _ => true

/-- The station after a run, none if one of its moves breaks the rule or cannot be
made. -/
def run? (rule : Rule slots size capacity) :
    List (Move capacity) → Station slots size capacity → Option (Station slots size capacity)
  | [], station => some station
  | move :: rest, station =>
      if rule station move then (station.move? move).bind (run? rule rest) else none

/-- A record of a run, which takes note of each move with the stations before and
after it. -/
def recordOf {record : Type}
    (note : record → Station slots size capacity → Move capacity →
      Station slots size capacity → record) :
    List (Move capacity) → record → Station slots size capacity → record
  | [], sofar, _ => sofar
  | move :: rest, sofar, station =>
      match station.move? move with
      | none => sofar
      | some next => recordOf note rest (note sofar station move next) next

/-- A property that every move keeps holds at the end of every run. -/
theorem run?_invariant {record : Type} {rule : Rule slots size capacity}
    (note : record → Station slots size capacity → Move capacity →
      Station slots size capacity → record)
    (Holds : record → Station slots size capacity → Prop)
    (kept : ∀ sofar station move next, Holds sofar station → rule station move = true →
      station.move? move = some next → Holds (note sofar station move next) next)
    (moves : List (Move capacity)) :
    ∀ (sofar : record) {station after : Station slots size capacity}, Holds sofar station →
      run? rule moves station = some after → Holds (recordOf note moves sofar station) after := by
  induction moves with
  | nil =>
      intro sofar station after holds ran
      cases ran
      exact holds
  | cons move rest ih =>
      intro sofar station after holds ran
      unfold run? at ran
      split at ran
      · rename_i allowed
        obtain ⟨next, moved, ran⟩ := Option.bind_eq_some_iff.mp ran
        simp only [recordOf, moved]
        exact ih _ (kept sofar station move next holds allowed moved) ran
      · cases ran

theorem run?_keeps {rule : Rule slots size capacity}
    (Holds : Station slots size capacity → Prop)
    (kept : ∀ station move next, Holds station → rule station move = true →
      station.move? move = some next → Holds next)
    {moves : List (Move capacity)} {station after : Station slots size capacity}
    (holds : Holds station) (ran : run? rule moves station = some after) : Holds after :=
  run?_invariant (fun (_ : Unit) _ _ _ => ()) (fun _ => Holds)
    (fun _ => kept) moves () holds ran

/-- A station on a link that has just been taken over, with no call under way. -/
def Fresh (station : Station slots size capacity) : Prop :=
  ∃ device config handler link,
    Link.ofDevice slots size device config handler = .ok link ∧ station = .ofLink link

theorem Fresh.eq_ofLink {station : Station slots size capacity} (fresh : station.Fresh) :
    ∃ bus sequence info config handler, station = .ofLink
      { bus
        registers := Lock.free
        gate := Lock.free
        completion := false
        status := Status.initialized
        phase := .idle
        sequence
        last := .idle
        pool := Pool.empty slots size
        handler
        queue := {}
        delivered := []
        info
        config } := by
  obtain ⟨device, config, handler, link, opened, rfl⟩ := fresh
  unfold Link.ofDevice at opened
  split at opened
  · cases opened
  · cases opened
    exact ⟨_, _, _, config, handler, rfl⟩

def open? (device : Device .ready) (config : LinkConfig) (handler : Handler) :
    Option (Station slots size capacity) :=
  match Link.ofDevice slots size device config handler with
  | .ok link => some (.ofLink link)
  | .error _ => none

theorem fresh_of_open? {device : Device .ready} {config : LinkConfig} {handler : Handler}
    {station : Station slots size capacity} (opened : open? device config handler = some station) :
    station.Fresh := by
  unfold open? at opened
  split at opened
  · rename_i link taken
    cases opened
    exact ⟨device, config, handler, link, taken, rfl⟩
  · cases opened

end Station

def Device.unused : Device .ready :=
  { bus := { enabled := true }, sequence := 0, info := {} }

end UwbRadio
