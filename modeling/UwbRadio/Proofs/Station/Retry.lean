import UwbRadio.Proofs.Bus.Starts
import UwbRadio.Proofs.Link.Sparing
import UwbRadio.Proofs.Station.Between
import UwbRadio.Proofs.Station.Events

/-!
The transaction after a transmit fault. The fault clears the warning alone and leaves the
phase idle, so nobody silences the radio before the next transaction starts it: an event
that was latched at the fault is still there, unless a call of the event side has taken
it in between.
-/

namespace UwbRadio

namespace Station

variable {slots size capacity : Nat} {station after : Station slots size capacity}

def isEngineEvent (bit : Nat) : Bool := Bits.engineEvents.toNat.testBit bit

theorem and_eq_zero_iff {status : UInt64} :
    status &&& Bits.engineEvents = 0 ↔
      ∀ bit, isEngineEvent bit = true → status.toNat.testBit bit = false := by
  constructor
  · intro none bit event
    have bits := congrArg (fun events : UInt64 => events.toNat.testBit bit) none
    have among : Bits.engineEvents.toNat.testBit bit = true := event
    simpa [UInt64.toNat_and, Nat.testBit_and, among] using bits
  · intro none
    apply UInt64.toNat_inj.mp
    apply Nat.eq_of_testBit_eq
    intro bit
    rw [UInt64.toNat_and, Nat.testBit_and, UInt64.toNat_zero, Nat.zero_testBit]
    cases event : Bits.engineEvents.toNat.testBit bit with
    | false => exact Bool.and_false _
    | true => rw [none bit event, Bool.false_and]

/-- A caller whose transaction has begun clears no event. -/
def Sparing (station : Station slots size capacity) : Prop :=
  ∀ id exchange point, station.call? id = some (exchange, point) → point.begun = true →
    point.SparesEvents

theorem sparing_of_fresh (fresh : station.Fresh) : station.Sparing := by
  obtain ⟨device, config, handler, link, _, rfl⟩ := fresh
  intro id exchange point calls
  cases calls

theorem Sparing.move {move : Move capacity} (sparing : station.Sparing)
    (orderly : station.Orderly) (moved : station.move? move = some after) : after.Sparing := by
  intro id exchange point calls begun
  cases orderly.callFrom moved calls with
  | gate atGate =>
      rw [atGate] at begun
      cases begun
  | @step earlier mine asked turns =>
      cases before : earlier.begun with
      | true =>
          refine turns.sparesEvents (sparing id _ earlier asked before) ?_
          rintro rfl
          cases before
      | false =>
          obtain ⟨frame, deadline, rfl⟩ := turns.begins_at_startLock before begun
          trivial
  | stay unmoved before => exact sparing id exchange point before begun

/-- A move that is no disturbance and clears no status leaves the events of a transaction,
if it is no step of a caller that clears them. -/
theorem Orderly.sameEvents {move : Move capacity} (orderly : station.Orderly)
    (moved : station.move? move = some after) (undisturbed : ∀ change, move ≠ .disturb change)
    (reads : ∀ id pending, move = .step id →
      station.task? id ≠ some (.interrupt (.clearStatus pending)))
    (spares : ∀ id exchange point, move = .step id →
      station.call? id = some (exchange, point) → point.SparesEvents) :
    Bus.SameEvents station.link.bus after.link.bus := by
  by_cases stepped : ∃ id, move = .step id
  · obtain ⟨id, rfl⟩ := stepped
    obtain ⟨task, next, given, effect, renames⟩ := orderly.step_task moved
    have calling {exchange : Exchange} {point : CallerPoint}
        (calls : task.call? = some (exchange, point)) : point.SparesEvents :=
      spares id exchange point rfl ((call?_of_task renames.before).trans calls)
    have serving {point : InterruptPoint} (serves : task = .interrupt point) (pending : UInt64) :
        point ≠ .clearStatus pending := by
      rintro rfl
      exact reads id pending rfl (renames.before.trans (congrArg some serves))
    cases effect.part with
    | call calls stepped =>
        exact (Link.callerTurns_of_eq stepped).keepsEvents (calling calls)
    | returned calls stepped =>
        exact (Link.callerTurns_of_eq stepped).keepsEvents (calling calls)
    | event stepped =>
        exact Bus.sameEvents_of_eq (congrArg (·.value Register.systemStatus)
          ((Link.interruptTurns_of_eq stepped).registers_kept (serving rfl)))
    | handled stepped =>
        exact Bus.sameEvents_of_eq (congrArg (·.value Register.systemStatus)
          ((Link.interruptTurns_of_eq stepped).registers_kept (serving rfl)))
    | aside noCall noEvent outside linkAfter => rw [linkAfter]; rfl
  · have unstepped : ∀ id, move ≠ .step id := fun id same => stepped ⟨id, same⟩
    rw [bus_of_move? moved unstepped undisturbed]
    rfl

theorem shows_of_sameEvents {bit : Nat} (event : isEngineEvent bit = true)
    (same : Bus.SameEvents station.link.bus after.link.bus) :
    after.shows bit = station.shows bit := by
  have bits := congrArg (fun events : UInt64 => events.toNat.testBit bit) same
  have among : Bits.engineEvents.toNat.testBit bit = true := event
  simp only [UInt64.toNat_and, Nat.testBit_and, among, Bool.and_true] at bits
  exact bits

/-- No transaction is under way and none is left over, so nobody silences the radio. -/
structure Rested (station : Station slots size capacity) : Prop where
  orderly : station.Orderly
  idle : station.link.phase = .idle
  early : ∀ id exchange point, station.call? id = some (exchange, point) →
    point.begun = false ∧ point.silences = false

theorem sparesEvents_of_early {point : CallerPoint}
    (early : point.begun = false ∧ point.silences = false) : point.SparesEvents := by
  cases point with
  | silenceLock => cases early.2
  | silencing => cases early.2
  | starting => cases early.1
  | cancelling => cases early.1
  | _ => trivial

theorem early_of_gate {point : CallerPoint} (atGate : point = .gate) :
    point.begun = false ∧ point.silences = false := by
  rw [atGate]
  exact ⟨rfl, rfl⟩

theorem Rested.move {move : Move capacity} (rested : station.Rested)
    (allowed : opensNone station move = true) (moved : station.move? move = some after) :
    after.Rested := by
  refine ⟨rested.orderly.move moved, ?_, ?_⟩
  · cases rested.orderly.happens moved with
    | @step id task next given effect renames =>
        cases effect.part with
        | call calls stepped goesOn =>
            have own := (call?_of_task renames.before).trans calls
            obtain ⟨before, quiet⟩ := rested.early _ _ _ own
            have later := (call?_of_task renames.later).trans goesOn
            have unbegun := unbegun_of_opensNone allowed moved own before later
            exact ((Link.callerTurns_of_eq stepped).rests before quiet rested.idle unbegun).1
        | returned calls stepped =>
            obtain ⟨before, quiet⟩ :=
              rested.early _ _ _ ((call?_of_task renames.before).trans calls)
            exact (Link.callerTurns_of_eq stepped).returns_idle before quiet rested.idle
        | event stepped => exact (Link.interruptTurns_of_eq stepped).stays_idle rested.idle
        | handled stepped => exact (Link.interruptTurns_of_eq stepped).stays_idle rested.idle
        | aside noCall noEvent outside linkAfter => rw [linkAfter]; exact rested.idle
    | cancel linkAfter => rw [linkAfter]; exact rested.idle
    | call names outside quiet linkAfter => rw [linkAfter]; exact rested.idle
    | action noTask acted =>
        obtain ⟨bus, pool, queue, linkAfter⟩ := acted.frame
        rw [linkAfter]
        exact rested.idle
  · intro id exchange point calls
    cases rested.orderly.callFrom moved calls with
    | gate atGate => exact early_of_gate atGate
    | step mine asked turns =>
        subst mine
        obtain ⟨before, quiet⟩ := rested.early id exchange _ asked
        have unbegun := unbegun_of_opensNone allowed moved asked before calls
        exact ⟨unbegun, (turns.rests before quiet rested.idle unbegun).2⟩
    | stay unmoved before => exact rested.early id exchange point before

end Station

/-! ### What happens to the events meanwhile -/

namespace Latching

theorem eq_nil_of_untouched {history : List Latching} {shown : Bool}
    (after : after? true history = some shown) (untaken : ∀ call, .taken call ∉ history)
    (undiscarded : .discarded ∉ history) : history = [] := by
  induction history generalizing shown with
  | nil => rfl
  | cons latest earlier ih =>
      obtain ⟨before, sofar, changes⟩ := Option.bind_eq_some_iff.mp after
      have none : earlier = [] :=
        ih sofar (fun call member => untaken call (List.mem_cons_of_mem latest member))
          fun member => undiscarded (List.mem_cons_of_mem latest member)
      rw [none] at sofar
      cases sofar
      cases latest with
      | raised => cases changes
      | taken call => exact absurd List.mem_cons_self (untaken call)
      | discarded => exact absurd List.mem_cons_self undiscarded

theorem hides {latest : Latching} {shown : Bool} (changes : latest.shows? true = some shown) :
    shown = false := by
  cases latest with
  | raised => cases changes
  | taken call => cases changes; rfl
  | discarded => cases changes; rfl

end Latching

namespace EventLog

variable {slots size capacity : Nat} {station after : Station slots size capacity}

theorem add_history (log : EventLog) (latest : Nat → Option Latching) (bit : Nat) :
    (log.add latest).history bit = log.history bit ∨
      ∃ change, latest bit = some change ∧
        (log.add latest).history bit = change :: log.history bit := by
  have history : (log.add latest).history bit = (latest bit).toList ++ log.history bit := rfl
  rw [history]
  cases latest bit with
  | none => exact .inl rfl
  | some change => exact .inr ⟨change, rfl, rfl⟩

theorem note_history (log : EventLog) (station : Station slots size capacity)
    (move : Move capacity) (after : Station slots size capacity) (bit : Nat) :
    (log.note station move after).history bit = log.history bit ∨
      ∃ change, (log.note station move after).history bit = change :: log.history bit ∧
        (change = .discarded → station.shows bit = true ∧ after.shows bit = false ∧
          ∃ id, move = .step id ∧
            ∀ pending, station.task? id ≠ some (.interrupt (.clearStatus pending))) := by
  cases move with
  | step id =>
      simp only [note]
      split
      · exact .inl rfl
      · refine (log.add_history _ bit).imp_right ?_
        rintro ⟨change, latest, history⟩
        refine ⟨change, history, ?_⟩
        rintro rfl
        split at latest <;> cases latest
      · rename_i reads clears
        refine (log.add_history _ bit).imp_right ?_
        rintro ⟨change, latest, history⟩
        refine ⟨change, history, fun _ => ?_⟩
        rw [Option.ite_none_right_eq_some, Bool.and_eq_true, Bool.not_eq_true'] at latest
        exact ⟨latest.1.1, latest.1.2, id, rfl, clears⟩
  | disturb change =>
      refine (log.add_history _ bit).imp_right ?_
      rintro ⟨change, latest, history⟩
      refine ⟨change, history, ?_⟩
      rintro rfl
      split at latest <;> cases latest
  | _ => exact .inl rfl

end EventLog

namespace Station

variable {slots size capacity : Nat} {station after : Station slots size capacity}

/-- What has happened to the event status since some station, and which of its bits have
shown all the time. -/
structure Aftermath where
  log : EventLog := {}
  standing : UInt64

namespace Aftermath

def since (station : Station slots size capacity) : Aftermath :=
  { standing := station.events }

def note (sofar : Aftermath) (station : Station slots size capacity) (move : Move capacity)
    (after : Station slots size capacity) : Aftermath :=
  { log := sofar.log.note station move after, standing := sofar.standing &&& after.events }

end Aftermath

/-- Just the bits stand that showed at first and that nothing has happened to. -/
structure Standing (first : Nat → Bool) (sofar : Aftermath)
    (station : Station slots size capacity) : Prop where
  latched : Latched first sofar.log station
  standing : ∀ bit, sofar.standing.toNat.testBit bit = true ↔
    first bit = true ∧ sofar.log.history bit = []

variable {first : Nat → Bool} {sofar : Aftermath}

theorem Standing.move {move : Move capacity} (stands : Standing first sofar station)
    (allowed : latches station move = true) (moved : station.move? move = some after) :
    Standing first (sofar.note station move after) after := by
  have latched := stands.latched.move allowed moved
  refine ⟨latched, ?_⟩
  intro bit
  have shown := latched.history bit
  have both : (sofar.note station move after).standing.toNat.testBit bit =
      (sofar.standing.toNat.testBit bit && after.shows bit) := by
    rw [Aftermath.note, UInt64.toNat_and, Nat.testBit_and]
    rfl
  rw [both, Bool.and_eq_true, stands.standing bit]
  rcases sofar.log.note_history station move after bit with same | ⟨change, added, _⟩
  · have history : (sofar.note station move after).log.history bit = sofar.log.history bit := same
    rw [history]
    constructor
    · exact And.left
    · rintro ⟨showed, untouched⟩
      rw [same, untouched, Latching.after?, showed] at shown
      exact ⟨⟨showed, untouched⟩, (Option.some.inj shown).symm⟩
  · have history : (sofar.note station move after).log.history bit =
        change :: sofar.log.history bit := added
    rw [history]
    constructor
    · rintro ⟨⟨showed, untouched⟩, shows⟩
      rw [added, untouched, Latching.after?, Latching.after?, showed] at shown
      rw [Latching.hides shown] at shows
      cases shows
    · rintro ⟨_, untouched⟩
      cases untouched

theorem Standing.standing_iff_untaken {bit : Nat} (stands : Standing first sofar station)
    (undiscarded : Latching.discarded ∉ sofar.log.history bit) :
    sofar.standing.toNat.testBit bit = true ↔
      first bit = true ∧ ∀ call, Latching.taken call ∉ sofar.log.history bit := by
  rw [stands.standing bit]
  refine and_congr_right fun showed => ⟨fun untouched => ?_, fun untaken => ?_⟩
  · rw [untouched]
    exact fun _ => List.not_mem_nil
  · have shown := stands.latched.history bit
    rw [showed] at shown
    exact Latching.eq_nil_of_untouched shown untaken undiscarded

/-- No event of a transaction has been discarded. -/
def Undiscarded (log : EventLog) : Prop :=
  ∀ bit, isEngineEvent bit = true → Latching.discarded ∉ log.history bit

theorem Undiscarded.note {log : EventLog} {move : Move capacity} (undiscarded : Undiscarded log)
    (kept : ∀ id, move = .step id →
      (∀ pending, station.task? id ≠ some (.interrupt (.clearStatus pending))) →
        Bus.SameEvents station.link.bus after.link.bus) :
    Undiscarded (log.note station move after) := by
  intro bit event member
  rcases log.note_history station move after bit with same | ⟨change, added, discards⟩
  · rw [same] at member
    exact undiscarded bit event member
  · rw [added] at member
    rcases List.mem_cons.mp member with latest | before
    · obtain ⟨showed, hidden, id, steps, reads⟩ := discards latest.symm
      rw [shows_of_sameEvents event (kept id steps reads), showed] at hidden
      cases hidden
    · exact undiscarded bit event before

theorem Rested.undiscarded {log : EventLog} {move : Move capacity} (rested : station.Rested)
    (undiscarded : Undiscarded log) (moved : station.move? move = some after) :
    Undiscarded (log.note station move after) := by
  refine undiscarded.note ?_
  rintro id rfl reads
  refine rested.orderly.sameEvents moved nofun ?_ ?_
  · rintro other pending ⟨⟩
    exact reads pending
  · rintro other exchange point ⟨⟩ calls
    exact sparesEvents_of_early (rested.early id exchange point calls)

/-- The transaction of the task is under way with its caller, and no event has been
discarded. -/
structure UnderWay (id : TaskId) (log : EventLog) (station : Station slots size capacity) :
    Prop where
  orderly : station.Orderly
  sparing : station.Sparing
  undiscarded : station.begun id = true → Undiscarded log

theorem UnderWay.move {id : TaskId} {log : EventLog} {move : Move capacity}
    (underWay : UnderWay id log station) (allowed : opensNone station move = true)
    (moved : station.move? move = some after) :
    UnderWay id (log.note station move after) after := by
  refine ⟨underWay.orderly.move moved, underWay.sparing.move underWay.orderly moved, ?_⟩
  intro begun
  obtain ⟨task, exchange, point, found, calls, running⟩ := call_of_begun begun
  have asks : after.call? id = some (exchange, point) := (call?_of_task found).trans calls
  have caller : station.begun id = true ∧ ∀ other transaction at_, move = .step other →
      station.call? other = some (transaction, at_) → at_.SparesEvents := by
    cases underWay.orderly.call_move moved with
    | @goesOn mover transaction earlier later steps asked stepped goesOn others =>
        subst steps
        by_cases same : id = mover
        · subst same
          have before : earlier.begun = true := by
            cases before : earlier.begun with
            | true => rfl
            | false =>
                rw [unbegun_of_opensNone allowed moved asked before asks] at running
                cases running
          refine ⟨(begun_of_call asked).trans before, ?_⟩
          rintro other transaction at_ ⟨⟩ there
          rw [asked] at there
          cases there
          exact underWay.sparing id _ earlier asked before
        · rw [others id exchange point same asks] at running
          cases running
    | returns steps asked stepped others =>
        rw [others id exchange point asks] at running
        cases running
    | aside idle sequence stay =>
        rcases stay id exchange point asks with atGate | before
        · rw [atGate] at running
          cases running
        · refine ⟨(begun_of_call before).trans running, ?_⟩
          rintro other transaction at_ rfl there
          rw [idle other rfl] at there
          cases there
  refine (underWay.undiscarded caller.1).note ?_
  rintro mover rfl reads
  refine underWay.orderly.sameEvents moved nofun ?_ caller.2
  rintro other pending ⟨⟩
  exact reads pending

/-- A transmit fault leaves nothing under way and all events of a transaction as they were,
and no call of the event side is about to clear any. -/
theorem rested_of_fault {id : TaskId} {exchange : Exchange} (orderly : station.Orderly)
    (holding : station.Holding) (sparing : station.Sparing)
    (returns : station.returns? id = some (exchange, .error .transmitFault))
    (moved : station.move? (.step id) = some after) :
    after.Rested ∧ Standing after.shows (.since after) after ∧
      Bus.SameEvents station.link.bus after.link.bus := by
  obtain ⟨⟨transaction, point⟩, calls, _⟩ := Option.bind_eq_some_iff.mp returns
  obtain ⟨task, next, given, effect, renames⟩ := orderly.step_task moved
  have asks : task.call? = some (transaction, point) :=
    (call?_of_task renames.before).symm.trans calls
  rcases orderly.caller_steps calls moved with ⟨later, stepped⟩ | ⟨result, stepped⟩
  · rw [returns?_of_next calls stepped] at returns
    cases returns
  · rw [returns?_of_done calls stepped] at returns
    cases returns
    obtain ⟨idle, begun, holds⟩ := (Link.callerTurns_of_eq stepped).transmitFault rfl
    have others : ∀ other transaction at_, after.call? other = some (transaction, at_) →
        at_ = .gate := by
      cases orderly.call_move moved with
      | goesOn steps asked turned =>
          cases steps
          rw [calls] at asked
          cases asked
          rw [stepped] at turned
          cases turned
      | returns steps asked turned others => exact others
      | aside none =>
          rw [none id rfl] at calls
          cases calls
    have later := orderly.move moved
    refine ⟨⟨later, idle, fun other transaction at_ there =>
      early_of_gate (others other transaction at_ there)⟩, ⟨⟨later, holding.move orderly moved,
        fun _ => rfl, ?_⟩, fun bit => ⟨fun shown => ⟨shown, rfl⟩, And.left⟩⟩, ?_⟩
    · rintro other _ found pending rfl
      by_cases same : other = id
      · subst same
        rw [renames.later] at found
        subst found
        obtain ⟨rfl, _⟩ := effect.of_clearStatus
        cases asks
      · rw [renames.stay other same] at found
        have needs : Guard.registers.needs task = true := (Guard.needs_of_call _ asks).trans holds
        have holder := holding id task renames.before needs
        rw [holding other _ found rfl] at holder
        exact absurd (Option.some.inj holder) same
    · refine orderly.sameEvents moved nofun ?_ ?_
      · rintro other pending ⟨⟩ found
        rw [renames.before] at found
        cases found
        cases asks
      · rintro other transaction at_ ⟨⟩ there
        rw [calls] at there
        cases there
        exact sparing id _ _ calls begun

/-- The device latches events, and no transaction begins. -/
def latchesWaiting : Rule slots size capacity :=
  fun station move => latches station move && opensNone station move

/-- The next transaction after a transmit fault finds just those events still standing that
had been latched at the fault and that no call of the event side has taken since: the fault
itself clears none of them, and nobody else discards one until the transaction has returned,
in particular not before it starts the hardware. So none stands exactly if all have been
taken. -/
theorem retry_finds_untaken_events {opened before failed preparing begun restarting :
      Station slots size capacity} {rule : Rule slots size capacity}
    {earlier waiting meanwhile : List (Move capacity)} {id next : TaskId} {request : Request}
    (fresh : opened.Fresh) (reached : run? rule earlier opened = some before)
    (returns : before.returns? id = some (.send request, .error .transmitFault))
    (fails : before.step? id = some failed)
    (waited : run? latchesWaiting waiting failed = some preparing)
    (begins : preparing.step? next = some begun)
    (ran : run? latchesWaiting meanwhile begun = some restarting)
    (underWay : restarting.begun next = true) :
    let preparation := recordOf Aftermath.note waiting (.since failed) failed
    let sofar := recordOf Aftermath.note meanwhile
      (preparation.note preparing (.step next) begun) begun
    (∀ bit, isEngineEvent bit = true → failed.shows bit = before.shows bit) ∧
    (∀ bit, isEngineEvent bit = true →
      (sofar.standing.toNat.testBit bit = true ↔
        before.shows bit = true ∧ ∀ call, .taken call ∉ sofar.log.history bit)) ∧
    (sofar.standing &&& Bits.engineEvents = 0 ↔
      ∀ bit, isEngineEvent bit = true → before.shows bit = true →
        ∃ call, .taken call ∈ sofar.log.history bit) := by
  have sound : before.Orderly ∧ before.Holding ∧ before.Sparing :=
    run?_keeps (fun station => station.Orderly ∧ station.Holding ∧ station.Sparing)
      (fun _ _ _ ⟨orderly, holding, sparing⟩ _ moved => ⟨orderly.move moved,
        holding.move orderly moved, sparing.move orderly moved⟩)
      ⟨orderly_of_fresh fresh, holding_of_fresh fresh, sparing_of_fresh fresh⟩ reached
  obtain ⟨orderly, holding, sparing⟩ := sound
  obtain ⟨rested, stands, same⟩ := rested_of_fault orderly holding sparing returns fails
  have failing : before.move? (.step id) = some failed := fails
  have unchanged (bit : Nat) (event : isEngineEvent bit = true) :
      failed.shows bit = before.shows bit := shows_of_sameEvents event same
  have prepared := run?_invariant Aftermath.note
    (fun sofar station => Standing failed.shows sofar station ∧ station.Rested ∧
      station.Sparing ∧ Undiscarded sofar.log)
    (fun sofar station move after ⟨stands, rested, sparing, undiscarded⟩ allowed moved =>
      have both := Bool.and_eq_true_iff.mp allowed
      ⟨stands.move both.1 moved, rested.move both.2 moved, sparing.move rested.orderly moved,
        rested.undiscarded undiscarded moved⟩)
    waiting (.since failed)
    ⟨stands, rested, sparing.move orderly failing, fun _ _ => List.not_mem_nil⟩ waited
  obtain ⟨stands, rested, sparing, undiscarded⟩ := prepared
  have beginning : preparing.move? (.step next) = some begun := begins
  have started := run?_invariant Aftermath.note
    (fun sofar station => Standing failed.shows sofar station ∧ UnderWay next sofar.log station)
    (fun sofar station move after ⟨stands, underWay⟩ allowed moved =>
      have both := Bool.and_eq_true_iff.mp allowed
      ⟨stands.move both.1 moved, underWay.move both.2 moved⟩)
    meanwhile _
    ⟨stands.move rfl beginning, rested.orderly.move beginning,
      sparing.move rested.orderly beginning,
      fun _ => rested.undiscarded undiscarded beginning⟩ ran
  obtain ⟨stands, under⟩ := started
  have untaken (bit : Nat) (event : isEngineEvent bit = true) := by
    have standing := stands.standing_iff_untaken (under.undiscarded underWay bit event)
    rw [unchanged bit event] at standing
    exact standing
  refine ⟨unchanged, untaken, ?_⟩
  rw [and_eq_zero_iff]
  constructor
  · intro none bit event showed
    by_contra missed
    have stays := (untaken bit event).mpr ⟨showed, fun call taken => missed ⟨call, taken⟩⟩
    rw [none bit event] at stays
    cases stays
  · intro taken bit event
    apply Bool.eq_false_iff.mpr
    intro stays
    obtain ⟨showed, kept⟩ := (untaken bit event).mp stays
    obtain ⟨call, member⟩ := taken bit event showed
    exact kept call member

/-- A send starts too late while the device still shows an earlier frame as sent. One access
is left to take the start back. -/
def lateOverSent : List (Move 0) :=
  .disturb (.registers (RegisterFile.powerUp.raise (Bits.frameSent ||| Bits.halfPeriodWarning))) ::
    .submit 1 (.send (Request.ofPayload [0x68, 0x69])) :: List.replicate 8 (.step 1)

def callsAgain : List (Move 0) := [.submit 2 (.send (Request.ofPayload [0x68, 0x69]))]

def servesInterrupt : List (Move 0) :=
  [.submit 3 .serveInterrupt, .step 3, .step 3, .step 3]

def loadsFrame : List (Move 0) := List.replicate 4 (.step 2)

theorem retry_after_interrupt_finds_nothing :
    ∃ (opened before failed preparing begun restarting started : Station 2 127 0)
      (sofar : Aftermath),
      opened.Fresh ∧ run? (fun _ _ => true) lateOverSent opened = some before ∧
      before.returns? 1 = some (.send (Request.ofPayload [0x68, 0x69]), .error .transmitFault) ∧
      before.step? 1 = some failed ∧
      run? latchesWaiting (servesInterrupt ++ callsAgain) failed = some preparing ∧
      preparing.step? 2 = some begun ∧ run? latchesWaiting loadsFrame begun = some restarting ∧
      restarting.step? 2 = some started ∧
      (restarting.wrote started).any Written.startsTransmitter = true ∧
      sofar = recordOf Aftermath.note loadsFrame
        ((recordOf Aftermath.note (servesInterrupt ++ callsAgain) (.since failed) failed).note
          preparing (.step 2) begun) begun ∧
      before.shows 7 = true ∧ sofar.log.history 7 = [.taken 3] ∧
      sofar.standing &&& Bits.engineEvents = 0 := by
  have evaluated : (do
      let opened : Station 2 127 0 ← open? Device.unused {} .transfer
      let before ← run? (fun _ _ => true) lateOverSent opened
      let failed ← before.step? 1
      let preparing ← run? latchesWaiting (servesInterrupt ++ callsAgain) failed
      let begun ← preparing.step? 2
      let restarting ← run? latchesWaiting loadsFrame begun
      let started ← restarting.step? 2
      let sofar := recordOf Aftermath.note loadsFrame
        ((recordOf Aftermath.note (servesInterrupt ++ callsAgain) (.since failed) failed).note
          preparing (.step 2) begun) begun
      return (before.returns? 1, before.events &&& Bits.engineEvents == Bits.frameSent,
        restarting.begun 2, (restarting.wrote started).any Written.startsTransmitter,
        sofar.log.history 7)) =
      some (some (.send (Request.ofPayload [0x68, 0x69]), .error .transmitFault), true, true,
        true, [.taken 3]) := by
    cbv
  obtain ⟨opened, isOpen, evaluated⟩ := Option.bind_eq_some_iff.mp evaluated
  obtain ⟨before, reached, evaluated⟩ := Option.bind_eq_some_iff.mp evaluated
  obtain ⟨failed, fails, evaluated⟩ := Option.bind_eq_some_iff.mp evaluated
  obtain ⟨preparing, waited, evaluated⟩ := Option.bind_eq_some_iff.mp evaluated
  obtain ⟨begun, begins, evaluated⟩ := Option.bind_eq_some_iff.mp evaluated
  obtain ⟨restarting, ran, evaluated⟩ := Option.bind_eq_some_iff.mp evaluated
  obtain ⟨started, restarts, evaluated⟩ := Option.bind_eq_some_iff.mp evaluated
  have seen := Option.some.inj evaluated
  simp only [Prod.mk.injEq] at seen
  obtain ⟨returns, shown, underWay, starts, taken⟩ := seen
  have fresh := fresh_of_open? isOpen
  have only (bit : Nat) (event : isEngineEvent bit = true) :
      before.shows bit = decide (7 = bit) := by
    have bits := congrArg (fun events : UInt64 => events.toNat.testBit bit) (eq_of_beq shown)
    have among : Bits.engineEvents.toNat.testBit bit = true := event
    have sent : Bits.frameSent.toNat = 2 ^ 7 := rfl
    simp only [UInt64.toNat_and, Nat.testBit_and, among, Bool.and_true, sent,
      Nat.testBit_two_pow] at bits
    exact bits
  obtain ⟨_, _, clean⟩ := retry_finds_untaken_events fresh reached returns fails waited begins ran
    underWay
  refine ⟨opened, before, failed, preparing, begun, restarting, started, _, fresh, reached,
    returns, fails, waited, begins, ran, restarts, starts, rfl, only 7 rfl, taken,
    clean.mpr ?_⟩
  intro bit event showed
  rw [only bit event, decide_eq_true_eq] at showed
  subst showed
  refine ⟨3, ?_⟩
  rw [taken]
  exact List.mem_cons_self

def completesRetry : List (Move 0) := List.replicate 2 (.step 2) ++ servesInterrupt

/-- The report of an earlier frame outlasts the fault and the start of the next send, which
it completes, though the device has reported nothing since. -/
theorem retry_completed_by_stale_event :
    ∃ (opened before failed preparing begun restarting started served : Station 2 127 0)
      (sofar : Aftermath) (status : Status),
      opened.Fresh ∧ run? (fun _ _ => true) lateOverSent opened = some before ∧
      before.returns? 1 = some (.send (Request.ofPayload [0x68, 0x69]), .error .transmitFault) ∧
      before.step? 1 = some failed ∧
      run? latchesWaiting callsAgain failed = some preparing ∧
      preparing.step? 2 = some begun ∧ run? latchesWaiting loadsFrame begun = some restarting ∧
      restarting.step? 2 = some started ∧
      (restarting.wrote started).any Written.startsTransmitter = true ∧
      sofar = recordOf Aftermath.note loadsFrame
        ((recordOf Aftermath.note callsAgain (.since failed) failed).note preparing (.step 2)
          begun) begun ∧
      isEngineEvent 7 = true ∧ before.shows 7 = true ∧
      sofar.standing.toNat.testBit 7 = true ∧
      run? latchesWaiting completesRetry restarting = some served ∧
      served.returns? 2 = some (.send (Request.ofPayload [0x68, 0x69]), .ok status) := by
  have evaluated : (do
      let opened : Station 2 127 0 ← open? Device.unused {} .transfer
      let before ← run? (fun _ _ => true) lateOverSent opened
      let failed ← before.step? 1
      let preparing ← run? latchesWaiting callsAgain failed
      let begun ← preparing.step? 2
      let restarting ← run? latchesWaiting loadsFrame begun
      let started ← restarting.step? 2
      let served ← run? latchesWaiting completesRetry restarting
      let sofar := recordOf Aftermath.note loadsFrame
        ((recordOf Aftermath.note callsAgain (.since failed) failed).note preparing (.step 2)
          begun) begun
      return (before.returns? 1, before.shows 7,
        (restarting.wrote started).any Written.startsTransmitter,
        sofar.standing.toNat.testBit 7, served.returns? 2)) =
      some (some (.send (Request.ofPayload [0x68, 0x69]), .error .transmitFault), true, true,
        true, some (.send (Request.ofPayload [0x68, 0x69]), .ok Status.initialized)) := by
    cbv
  obtain ⟨opened, isOpen, evaluated⟩ := Option.bind_eq_some_iff.mp evaluated
  obtain ⟨before, reached, evaluated⟩ := Option.bind_eq_some_iff.mp evaluated
  obtain ⟨failed, fails, evaluated⟩ := Option.bind_eq_some_iff.mp evaluated
  obtain ⟨preparing, waited, evaluated⟩ := Option.bind_eq_some_iff.mp evaluated
  obtain ⟨begun, begins, evaluated⟩ := Option.bind_eq_some_iff.mp evaluated
  obtain ⟨restarting, ran, evaluated⟩ := Option.bind_eq_some_iff.mp evaluated
  obtain ⟨started, restarts, evaluated⟩ := Option.bind_eq_some_iff.mp evaluated
  obtain ⟨served, completes, evaluated⟩ := Option.bind_eq_some_iff.mp evaluated
  have seen := Option.some.inj evaluated
  simp only [Prod.mk.injEq] at seen
  obtain ⟨returns, showed, starts, stands, answers⟩ := seen
  exact ⟨opened, before, failed, preparing, begun, restarting, started, served, _, _,
    fresh_of_open? isOpen, reached, returns, fails, waited, begins, ran, restarts, starts, rfl,
    rfl, showed, stands, completes, answers⟩

end Station

end UwbRadio
