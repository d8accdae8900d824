import UwbRadio.Proofs.Link.Events
import UwbRadio.Proofs.Station.Poll
import UwbRadio.Proofs.Station.Registers
import UwbRadio.Proofs.Station.Writes

/-!
No event of the device is lost or taken twice. Between a call's read of the event status
and its clear the registers are its own, so the device may raise bits, but nobody clears
any: what the call clears is what it has read.

`EventLog` records a run: what each call read last, and for each bit of the status in
which order it was raised by the device, taken by a call of the event side, or
discarded by a caller that silences the radio or takes back a start.
-/

namespace UwbRadio

/-- What happens to a bit of the event status. -/
inductive Latching
  | raised
  | taken (call : TaskId)
  | discarded
  deriving DecidableEq

namespace Latching

/-- Whether the bit shows afterwards; it is raised only while it does not show, and
taken or discarded only while it does. -/
def shows? : Latching → Bool → Option Bool
  | .raised, false => some true
  | .taken _, true | .discarded, true => some false
  | _, _ => none

/-- What has happened to a bit, latest first, and whether it shows then. -/
def after? (first : Bool) : List Latching → Option Bool
  | [] => some first
  | latest :: earlier => (after? first earlier).bind latest.shows?

theorem after?_add {first before later : Bool} {latest : Option Latching}
    {earlier : List Latching} (sofar : after? first earlier = some before)
    (changes : latest.elim (some before) (fun change => change.shows? before) = some later) :
    after? first (latest.toList ++ earlier) = some later := by
  cases latest with
  | none => exact sofar.trans changes
  | some change =>
      rw [Option.toList_some, List.singleton_append, after?, sofar]
      exact changes

end Latching

namespace Station

variable {slots size capacity : Nat} {station after : Station slots size capacity}

def events (station : Station slots size capacity) : UInt64 :=
  station.link.bus.events

def shows (station : Station slots size capacity) (bit : Nat) : Bool :=
  station.events.toNat.testBit bit

theorem events_of_registers (same : after.link.bus.registers = station.link.bus.registers) :
    after.events = station.events :=
  congrArg (fun file : RegisterFile => file.value Register.systemStatus) same

theorem shows_of_events (same : after.events = station.events) (bit : Nat) :
    after.shows bit = station.shows bit :=
  congrArg (fun events : UInt64 => events.toNat.testBit bit) same

def latches : Rule slots size capacity
  | station, .disturb (.registers file) =>
      file.value Register.systemStatus &&& station.events == station.events
  | _, _ => true

end Station

structure EventLog where
  read : TaskId → UInt64 := fun _ => 0
  /-- What has happened to each bit, latest first. -/
  history : Nat → List Latching := fun _ => []

namespace EventLog

variable {slots size capacity : Nat}

def add (log : EventLog) (latest : Nat → Option Latching) : EventLog :=
  { log with history := fun bit => (latest bit).toList ++ log.history bit }

def note (log : EventLog) (station : Station slots size capacity) :
    Move capacity → Station slots size capacity → EventLog
  | .step id, after =>
      match station.task? id with
      | some (.interrupt .readStatus) =>
          { log with read := fun other => if other = id then station.events else log.read other }
      | some (.interrupt (.clearStatus _)) =>
          log.add fun bit =>
            if station.wrote after ≠ [] ∧
                (log.read id &&& Bits.engineEvents).toNat.testBit bit = true then
              some (.taken id)
            else none
      | _ => log.add fun bit =>
          if station.shows bit && !after.shows bit then some .discarded else none
  | .disturb _, after =>
      log.add fun bit => if after.shows bit && !station.shows bit then some .raised else none
  | _, _ => log

theorem note_other {move : Move capacity} (log : EventLog)
    (station after : Station slots size capacity) (unstepped : ∀ id, move ≠ .step id)
    (undisturbed : ∀ change, move ≠ .disturb change) : log.note station move after = log := by
  cases move with
  | step id => exact absurd rfl (unstepped id)
  | disturb change => exact absurd rfl (undisturbed change)
  | _ => rfl

theorem note_read {station after : Station slots size capacity} {id : TaskId} (log : EventLog)
    (found : station.task? id = some (.interrupt .readStatus)) :
    (log.note station (.step id) after).read id = station.events := by
  simp [note, found]

theorem note_read_other {id other : TaskId} (log : EventLog)
    (station after : Station slots size capacity) (apart : other ≠ id) :
    (log.note station (.step id) after).read other = log.read other := by
  simp only [note]
  split
  · exact if_neg apart
  · rfl
  · rfl

end EventLog

theorem Effect.registers_kept {slots size : Nat} {link after : Link slots size} {id : TaskId}
    {point : InterruptPoint} {next : Option Task} {given : Option Slot}
    (effect : Effect link id (.interrupt point) after next given)
    (reads : ∀ pending, point ≠ .clearStatus pending) :
    after.bus.registers = link.bus.registers := by
  rcases effect.of_interrupt with ⟨later, _, turns⟩ | ⟨result, _, turns⟩
  · exact turns.registers_kept reads
  · exact turns.registers_kept reads

theorem Effect.clears {slots size : Nat} {link after : Link slots size} {id : TaskId}
    {read : UInt64} {next : Option Task} {given : Option Slot}
    (effect : Effect link id (.interrupt (.clearStatus (read &&& Bits.engineEvents))) after next
      given) :
    (after.bus.events = link.bus.events ∧ after.bus.written = link.bus.written) ∨
      (after.bus.events = link.bus.events &&& ~~~(read &&& Bits.engineEvents) ∧
        ∃ write, after.bus.written = write :: link.bus.written) := by
  have clear := Link.statusClear link id read
  cases effect with
  | call calls => cases calls
  | returned calls => cases calls
  | event stepped => rw [stepped] at clear; exact clear.leaves
  | handled stepped => rw [stepped] at clear; exact clear.leaves
  | quiet noCall noSlot noEvent => cases noEvent

theorem Effect.of_clearStatus {slots size : Nat} {link after : Link slots size} {id : TaskId}
    {task : Task} {pending : UInt64} {given : Option Slot}
    (effect : Effect link id task after (some (.interrupt (.clearStatus pending))) given) :
    task = .interrupt .readStatus ∧ pending = link.bus.events &&& Bits.engineEvents := by
  generalize later : some (Task.interrupt (.clearStatus pending)) = next at effect
  cases effect with
  | call calls stepped goesOn => cases later; cases goesOn
  | returned calls stepped rests =>
      have rests := (rests _ later.symm).2.2
      cases rests
  | event stepped =>
      cases later
      obtain ⟨rfl, same⟩ := (Link.interruptTurns_of_eq stepped).of_clearStatus
      exact ⟨rfl, same⟩
  | handled => cases later
  | reserved => cases later
  | popped => cases later
  | processed => cases later
  | quiet noCall noSlot noEvent rests =>
      have rests := (rests _ later.symm).2.2
      cases rests

namespace Station

variable {slots size capacity : Nat} {station after : Station slots size capacity}

/-- The history of each bit leads to what the device shows, and every call that is about
to clear events has read them while they showed. -/
structure Latched (first : Nat → Bool) (log : EventLog)
    (station : Station slots size capacity) : Prop where
  orderly : station.Orderly
  holding : station.Holding
  history : ∀ bit, Latching.after? (first bit) (log.history bit) = some (station.shows bit)
  reads : ∀ id task, station.task? id = some task → ∀ pending,
    task = .interrupt (.clearStatus pending) →
      pending = log.read id &&& Bits.engineEvents ∧
        ∀ bit, pending.toNat.testBit bit = true → station.shows bit = true

variable {first : Nat → Bool} {log : EventLog}

theorem latched_of_fresh (fresh : station.Fresh) : Latched station.shows {} station where
  orderly := orderly_of_fresh fresh
  holding := holding_of_fresh fresh
  history := fun _ => rfl
  reads := by
    obtain ⟨device, config, handler, link, opened, rfl⟩ := fresh
    intro id task found
    cases found

private theorem discards {id : TaskId} {task : Task} {next : Option Task} {given : Option Slot}
    (latched : Latched first log station)
    (effect : Effect station.link id task after.link next given) (bit : Nat) :
    Latching.after? (first bit)
      ((if station.shows bit && !after.shows bit then some Latching.discarded else none).toList ++
        log.history bit) = some (after.shows bit) := by
  have lost : after.shows bit = true → station.shows bit = true :=
    effect.busRelated Bus.loses_transfers bit
  apply Latching.after?_add (latched.history bit)
  cases before : station.shows bit with
  | true => cases after.shows bit <;> rfl
  | false =>
      cases later : after.shows bit with
      | true => rw [lost later] at before; cases before
      | false => rfl

private theorem takes {id : TaskId} {pending : UInt64} {next : Option Task} {given : Option Slot}
    (latched : Latched first log station)
    (found : station.task? id = some (.interrupt (.clearStatus pending)))
    (effect : Effect station.link id (.interrupt (.clearStatus pending)) after.link next given)
    (bit : Nat) :
    Latching.after? (first bit)
      ((if station.wrote after ≠ [] ∧ (log.read id &&& Bits.engineEvents).toNat.testBit bit = true
        then some (Latching.taken id) else none).toList ++ log.history bit) =
      some (after.shows bit) := by
  obtain ⟨rfl, shown⟩ := latched.reads id _ found pending rfl
  apply Latching.after?_add (latched.history bit)
  rcases effect.clears with ⟨kept, silent⟩ | ⟨cleared, write, wrote⟩
  · have nothing : station.wrote after = [] := wrote_eq (silent.trans (List.nil_append _).symm)
    rw [if_neg (fun taken => taken.1 nothing), shows_of_events kept bit]
    rfl
  · have something : station.wrote after ≠ [] := by
      have one : station.wrote after = [write] := wrote_eq wrote
      rw [one]
      exact List.cons_ne_nil _ _
    have left : after.shows bit = (station.shows bit &&
        !(log.read id &&& Bits.engineEvents).toNat.testBit bit) := by
      rw [shows, events, cleared, RegisterFile.testBit_cleared]
      rfl
    cases taken : (log.read id &&& Bits.engineEvents).toNat.testBit bit with
    | true =>
        rw [if_pos ⟨something, rfl⟩, left, taken, shown bit taken]
        rfl
    | false =>
        rw [if_neg (fun both => by cases both.2), left, taken, Bool.not_false, Bool.and_true]
        rfl

theorem Latched.step {id : TaskId} {task : Task} {next : Option Task} {given : Option Slot}
    (latched : Latched first log station)
    (effect : Effect station.link id task after.link next given)
    (renames : station.Renames after id (some task) next)
    (moved : station.move? (.step id) = some after) :
    Latched first (log.note station (.step id) after) after where
  orderly := latched.orderly.move moved
  holding := latched.holding.move latched.orderly moved
  history := by
    intro bit
    simp only [EventLog.note, renames.before]
    split
    · rename_i reading
      cases reading
      rw [shows_of_events (events_of_registers (effect.registers_kept nofun)) bit]
      exact latched.history bit
    · rename_i clearing
      cases clearing
      exact takes latched renames.before effect bit
    · exact discards latched effect bit
  reads := by
    refine renames.task ?_ ?_
    · rintro later rfl pending rfl
      obtain ⟨rfl, rfl⟩ := effect.of_clearStatus
      refine ⟨?_, ?_⟩
      · rw [log.note_read renames.before]
        rfl
      · intro bit shown
        have among : station.shows bit = true := by
          rw [UInt64.toNat_and, Nat.testBit_and, Bool.and_eq_true] at shown
          exact shown.1
        rw [shows_of_events (events_of_registers (effect.registers_kept nofun)) bit]
        exact among
    · -- Between its read and its clear a call holds the registers, so nobody else clears.
      rintro other _ apart found pending rfl
      obtain ⟨same, shown⟩ := latched.reads other _ found pending rfl
      obtain ⟨bus, _⟩ := latched.holding.spares effect renames.before apart found rfl
      refine ⟨?_, ?_⟩
      · rw [same, log.note_read_other station after apart]
      · intro bit set
        rw [shows_of_events (congrArg Bus.events bus) bit]
        exact shown bit set

theorem Latched.disturb {change : Disturbance} (latched : Latched first log station)
    (allowed : latches station (.disturb change) = true)
    (moved : station.move? (.disturb change) = some after) :
    Latched first (log.note station (.disturb change) after) after := by
  have orderly := latched.orderly.move moved
  have holding := latched.holding.move latched.orderly moved
  have stood := latched.orderly.stood moved nofun
  have rises : ∀ bit, station.shows bit = true → after.shows bit = true := by
    intro bit shown
    cases moved
    cases change with
    | registers file =>
        have more : file.value Register.systemStatus &&& station.events = station.events :=
          eq_of_beq allowed
        rw [shows, ← more, UInt64.toNat_and, Nat.testBit_and, Bool.and_eq_true] at shown
        exact shown.1
    | _ => exact shown
  refine ⟨orderly, holding, ?_, ?_⟩
  · intro bit
    apply Latching.after?_add (latched.history bit)
    cases before : station.shows bit with
    | true => simp [before, rises bit before]
    | false => cases later : after.shows bit <;> simp [before, later, Latching.shows?]
  · rintro id _ found pending rfl
    obtain ⟨same, shown⟩ := latched.reads id _ (stood id _ found rfl) pending rfl
    exact ⟨same, fun bit set => rises bit (shown bit set)⟩

theorem Latched.move {move : Move capacity} (latched : Latched first log station)
    (allowed : latches station move = true) (moved : station.move? move = some after) :
    Latched first (log.note station move after) after := by
  by_cases stepped : ∃ id, move = .step id
  · obtain ⟨id, rfl⟩ := stepped
    obtain ⟨task, next, given, effect, renames⟩ := latched.orderly.step_task moved
    exact latched.step effect renames moved
  by_cases disturbed : ∃ change, move = .disturb change
  · obtain ⟨change, rfl⟩ := disturbed
    exact latched.disturb allowed moved
  have unstepped : ∀ id, move ≠ .step id := fun id same => stepped ⟨id, same⟩
  have undisturbed : ∀ change, move ≠ .disturb change := fun change same => disturbed ⟨change, same⟩
  have shown (bit : Nat) : after.shows bit = station.shows bit :=
    shows_of_events (congrArg Bus.events (bus_of_move? moved unstepped undisturbed)) bit
  rw [log.note_other station after unstepped undisturbed]
  refine ⟨latched.orderly.move moved, latched.holding.move latched.orderly moved, ?_, ?_⟩
  · intro bit
    rw [shown]
    exact latched.history bit
  · rintro id _ found pending rfl
    simp only [shown]
    exact latched.reads id _ (latched.orderly.stood moved unstepped id _ found rfl) pending rfl

theorem Latched.run {moves : List (Move capacity)} (latched : Latched first log station)
    (ran : run? latches moves station = some after) :
    Latched first (recordOf EventLog.note moves log station) after :=
  run?_invariant EventLog.note (Latched first)
    (fun _ _ _ _ latched allowed moved => latched.move allowed moved) moves log latched ran

/-- What a step of a call of the event side does with the event status, if the call has
read `read` of it last. -/
def ServesStatus (station : Station slots size capacity) (id : TaskId) (read : UInt64)
    (after : Station slots size capacity) : InterruptPoint → Prop
  | .readStatus => ∃ turn, Link.StatusRead station.link turn ∧
      station.landing id .interrupt .handled turn = some after
  | .clearStatus pending => pending = read &&& Bits.engineEvents ∧
      ∃ turn, Link.StatusClear station.link read turn ∧
        station.landing id .interrupt .handled turn = some after
  | _ => after.events = station.events

theorem Latched.serves {id : TaskId} {point : InterruptPoint} (latched : Latched first log station)
    (found : station.task? id = some (.interrupt point))
    (moved : station.move? (.step id) = some after) :
    station.ServesStatus id (log.read id) after point := by
  have lands : station.landing id .interrupt .handled (station.link.interruptStep id point) =
      some after := (goesBy_events id station point found).symm.trans moved
  obtain ⟨task, next, given, effect, renames⟩ := latched.orderly.step_task moved
  have same := renames.before
  rw [found] at same
  cases same
  have untouched (reads : ∀ pending, point ≠ .clearStatus pending) :
      after.events = station.events :=
    events_of_registers (effect.registers_kept reads)
  cases point with
  | readStatus => exact ⟨_, station.link.statusRead id, lands⟩
  | clearStatus pending =>
      obtain ⟨rfl, _⟩ := latched.reads id _ found pending rfl
      exact ⟨rfl, _, station.link.statusClear id (log.read id), lands⟩
  | _ => exact untouched nofun

/-- However the device raises events while calls of the event side and others are under
way, and whatever fails: each bit of the status is taken at most once for each time that
it is raised and shows until then, and a call takes and feeds in just the events that it
has read, or nothing. The bits that are taken are those that tell of an event. -/
theorem events_are_neither_lost_nor_taken_twice {opened station : Station slots size capacity}
    {moves : List (Move capacity)} (fresh : opened.Fresh)
    (ran : run? latches moves opened = some station) :
    let log := recordOf EventLog.note moves {} opened
    (∀ bit, Latching.after? (opened.shows bit) (log.history bit) = some (station.shows bit)) ∧
      (∀ id point after, station.task? id = some (.interrupt point) →
        station.move? (.step id) = some after →
          station.ServesStatus id (log.read id) after point) ∧
      ∀ bit, Bits.engineEvents.toNat.testBit bit =
        [7, 12, 14, 15, 16, 17, 21, 26, 29].contains bit := by
  have latched := (latched_of_fresh fresh).run ran
  exact ⟨latched.history, fun id point after found moved => latched.serves found moved,
    testBit_engineEvents⟩

/-- While a call waits for a frame, the end of the reception is raised between the read and
the clear of the first interrupt; the second one takes it. -/
def raisesBetween : List (Move capacity) :=
  let sent := RegisterFile.powerUp.raise Bits.frameSent
  [[.submit 3 (.receive .blocking 0)], List.replicate 7 (.step 3),
    [.disturb (.registers sent), .submit 1 .serveInterrupt, .submit 2 .serveInterrupt, .step 1,
      .step 1, .disturb (.registers (sent.raise Bits.frameGood)), .step 1, .step 2,
      .step 2]].flatten

/-- The first interrupt feeds in that a frame was sent, the second that one was received,
which sets off the copy of the frame. -/
theorem events_raised_between_read_and_clear :
    ∃ (opened station after : Station 2 127 0) (log : EventLog),
      opened.Fresh ∧ run? latches raisesBetween opened = some station ∧
      log = recordOf EventLog.note raisesBetween {} opened ∧
      log.history 7 = [.taken 1, .raised] ∧ log.history 14 = [.raised] ∧
      log.read 1 = 0x80 ∧ eventsTold 0x80 = [.sent] ∧
      log.read 2 = 0x4000 ∧ eventsTold 0x4000 = [.received] ∧
      (∀ bit, Latching.after? (opened.shows bit) (log.history bit) = some (station.shows bit)) ∧
      station.task? 2 = some (.interrupt (.clearStatus 0x4000)) ∧
      station.move? (.step 2) = some after ∧
      station.ServesStatus 2 (log.read 2) after (.clearStatus 0x4000) ∧
      after.events = 0 ∧ after.task? 2 = some (.interrupt (.copyLock ⟨0⟩)) := by
  have evaluated : (do
      let opened : Station 2 127 0 ← open? Device.unused {} .transfer
      let station ← run? latches raisesBetween opened
      let after ← station.move? (.step 2)
      let log := recordOf EventLog.note raisesBetween {} opened
      return ((log.history 7, log.history 14, log.read 1, log.read 2, station.task? 2),
        after.events, after.task? 2)) =
      some (([.taken 1, .raised], [.raised], 0x80, 0x4000,
        some (.interrupt (.clearStatus 0x4000))), 0, some (.interrupt (.copyLock ⟨0⟩))) := by
    cbv
  obtain ⟨opened, isOpen, evaluated⟩ := Option.bind_eq_some_iff.mp evaluated
  obtain ⟨station, ran, evaluated⟩ := Option.bind_eq_some_iff.mp evaluated
  obtain ⟨after, moved, evaluated⟩ := Option.bind_eq_some_iff.mp evaluated
  have seen := Option.some.inj evaluated
  simp only [Prod.mk.injEq] at seen
  obtain ⟨⟨sent, good, first, second, found⟩, cleared, copies⟩ := seen
  have fresh := fresh_of_open? isOpen
  obtain ⟨history, serves, _⟩ := events_are_neither_lost_nor_taken_twice fresh ran
  exact ⟨opened, station, after, _, fresh, ran, rfl, sent, good, first, by decide, second,
    by decide, history, found, moved, serves 2 _ after found moved, cleared, copies⟩

end Station

end UwbRadio
