import UwbRadio.Proofs.Link.Request
import UwbRadio.Proofs.Station.Ticks
import UwbRadio.Proofs.Station.Writes

/-!
A stopped schedule is silent. Where one schedule is all that issues ticks, a tick begins
only while the session runs. So before the first start nothing is asked, and between a stop
and the next start the transmitter is started at most once for a request, for the tick that
was under way at the stop.

`ScheduleLog` records a run: the ticks that have begun, counted, which of them each task has
under way, and those whose requests have been transmitted since the session was last started
or stopped.
-/

namespace UwbRadio

open Ranging (Session)

namespace Task

def isSchedule : Task → Bool
  | .schedule _ => true
  | _ => false

def isTick : Task → Bool
  | .tick _ => true
  | _ => false

theorem issues_of_asks {task : Task} {call : Request × CallerPoint}
    (asks : task.asks? = some call) : task.isTick = true ∨ task.isSchedule = true := by
  cases task with
  | tick => exact .inl rfl
  | schedule => exact .inr rfl
  | _ => cases asks

end Task

namespace Station

variable {slots size capacity : Nat}

def soleSchedule : Rule slots size capacity
  | station, .submit _ task =>
      !task.isTick && !(task.isSchedule && station.tasks.any fun entry => entry.2.isSchedule)
  | _, _ => true

def transmitsRequest (station after : Station slots size capacity) (id : TaskId) : Bool :=
  station.asking id && (station.wrote after).any Written.startsTransmitter

/-- How often the request that the task has under way may still be transmitted. -/
def startsLeft (station : Station slots size capacity) (id : TaskId) : Nat :=
  (station.asks? id).elim 0 fun call => call.2.startsLeft

end Station

structure ScheduleLog where
  begun : Nat := 0
  number : TaskId → Nat := fun _ => 0
  started : Bool := false
  /-- How many ticks had begun when the session was stopped, or made, if it has not been
  started since. -/
  halted : Option Nat := some 0
  /-- The ticks whose requests have been transmitted since then, or since the start, latest
  first. -/
  sent : List Nat := []

namespace ScheduleLog

variable {slots size capacity : Nat}

def transmit (log : ScheduleLog) (station after : Station slots size capacity) (id : TaskId) :
    ScheduleLog :=
  { log with
    sent := (if station.transmitsRequest after id then [log.number id] else []) ++ log.sent }

def begin (log : ScheduleLog) (station after : Station slots size capacity) (id : TaskId) :
    ScheduleLog :=
  if !station.asking id && after.asking id then
    { log with
      begun := log.begun + 1
      number := fun other => if other = id then log.begun + 1 else log.number other }
  else
    log

def note (log : ScheduleLog) (station : Station slots size capacity) :
    Move capacity → Station slots size capacity → ScheduleLog
  | .step id, after => (log.transmit station after id).begin station after id
  | .start, _ =>
      if station.session.isSome then { log with started := true, halted := none, sent := [] }
      else log
  | .stop, _ =>
      if station.session.isSome && log.halted.isNone then
        { log with halted := some log.begun, sent := [] }
      else log
  | _, _ => log

end ScheduleLog

namespace Station

variable {slots size capacity : Nat} {station after : Station slots size capacity}
  {log : ScheduleLog} {id : TaskId}

theorem step?_issues {task next : Task} (found : station.task? id = some task)
    (stepped : station.step? id = some after) (later : after.task? id = some next) :
    next.isSchedule = task.isSchedule ∧ next.isTick = task.isTick := by
  rcases step?_turns found stepped with ⟨_, other, turns, _, here⟩ | ⟨_, _, _, _, gone⟩
  · rw [here] at later
    cases later
    cases turns <;> exact ⟨rfl, rfl⟩
  · rw [gone] at later
    cases later

/-- One schedule at most is there, and nothing else issues ticks. -/
structure Sole (station : Station slots size capacity) : Prop where
  noTick : ∀ id task, station.task? id = some task → task.isTick = false
  single : ∀ id other task waiting, station.task? id = some task →
    station.task? other = some waiting → task.isSchedule = true → waiting.isSchedule = true →
      id = other

theorem sole_of_fresh (fresh : station.Fresh) : station.Sole := by
  obtain ⟨device, config, handler, link, _, rfl⟩ := fresh
  constructor
  · intro id task found
    cases found
  · intro id other task waiting found
    cases found

theorem no_schedule_of_none (none : (station.tasks.any fun entry => entry.2.isSchedule) = false)
    {task : Task} (found : station.task? id = some task) : task.isSchedule = false := by
  obtain ⟨front, back, listed, _⟩ := List.lookup_eq_some_iff.mp found
  apply Bool.eq_false_iff.mpr
  apply List.any_eq_false.mp none (id, task)
  rw [listed]
  exact List.mem_append_right front List.mem_cons_self

/-- What issues ticks after a move has issued them before, or is the only schedule. -/
theorem Sole.issuer {move : Move capacity} {task : Task} (sole : station.Sole)
    (orderly : station.Orderly) (allowed : soleSchedule station move = true)
    (moved : station.move? move = some after) (found : after.task? id = some task) :
    task.isTick = false ∧ (task.isSchedule = true →
      (∃ earlier, station.task? id = some earlier ∧ earlier.isSchedule = true) ∨
        (move = .submit id task ∧
          ∀ other waiting, station.task? other = some waiting → waiting.isSchedule = false)) := by
  cases orderly.comesFrom moved found with
  | name names absent =>
      rcases named_task moved names absent found with ⟨rfl, starts⟩ | ⟨slot, rfl, rfl⟩
      · simp only [soleSchedule, Bool.and_eq_true, Bool.not_eq_true',
          Bool.and_eq_false_iff] at allowed
        refine ⟨allowed.1, fun issues => .inr ⟨rfl, ?_⟩⟩
        rcases allowed.2 with never | none
        · rw [issues] at never
          cases never
        · exact fun other waiting present => no_schedule_of_none none present
      · exact ⟨rfl, nofun⟩
  | @step earlier given mine before effect =>
      subst mine
      obtain ⟨schedules, ticks⟩ := step?_issues before moved found
      rw [schedules, ticks]
      exact ⟨sole.noTick id earlier before, fun issues => .inl ⟨earlier, before, issues⟩⟩
  | stay unmoved before =>
      exact ⟨sole.noTick id task before, fun issues => .inl ⟨task, before, issues⟩⟩

theorem Sole.move {move : Move capacity} (sole : station.Sole) (orderly : station.Orderly)
    (allowed : soleSchedule station move = true) (moved : station.move? move = some after) :
    after.Sole := by
  have issuer {id : TaskId} {task : Task} (found : after.task? id = some task) :=
    sole.issuer orderly allowed moved found
  constructor
  · intro id task found
    exact (issuer found).1
  · intro id other task waiting found present issues waits
    rcases (issuer found).2 issues with ⟨earlier, before, was⟩ | ⟨submits, none⟩
    · rcases (issuer present).2 waits with ⟨further, also, is⟩ | ⟨submits, none⟩
      · exact sole.single id other earlier further before also was is
      · rw [none id earlier before] at was
        cases was
    · rcases (issuer present).2 waits with ⟨further, also, is⟩ | ⟨same, _⟩
      · rw [none other further also] at is
        cases is
      · rw [submits] at same
        cases same
        rfl

theorem Sole.asks_single {other : TaskId} {call waiting : Request × CallerPoint}
    (sole : station.Sole) (asks : station.asks? id = some call)
    (also : station.asks? other = some waiting) : id = other := by
  have schedule {id : TaskId} {call : Request × CallerPoint}
      (asks : station.asks? id = some call) :
      ∃ task, station.task? id = some task ∧ task.isSchedule = true := by
    obtain ⟨task, found, asks⟩ := Option.bind_eq_some_iff.mp asks
    rcases Task.issues_of_asks asks with ticks | schedules
    · rw [sole.noTick id task found] at ticks
      cases ticks
    · exact ⟨task, found, schedules⟩
  obtain ⟨task, found, issues⟩ := schedule asks
  obtain ⟨further, present, waits⟩ := schedule also
  exact sole.single id other task further found present issues waits

/-! ### A halted session -/

def Halted (station : Station slots size capacity) : Prop :=
  ∀ session ∈ station.session, session.running = false

theorem Halted.of_running (halted : station.Halted)
    (same : after.session.map Session.running = station.session.map Session.running) :
    after.Halted := by
  intro session there
  rw [there] at same
  obtain ⟨earlier, opened, running⟩ := Option.map_eq_some_iff.mp same.symm
  exact running.symm.trans (halted earlier opened)

variable {log : ScheduleLog} {id : TaskId}

theorem TickMove.running (moves : station.TickMove after id) :
    after.session.map Session.running = station.session.map Session.running := by
  cases moves with
  | begins _ _ _ _ _ _ kept => rw [kept]
  | goesOn _ _ kept => rw [kept]
  | ends has _ _ ended =>
      rw [has, ended]
      rfl
  | aside _ _ same =>
      have running := congrArg (Option.map Ranging.Rotation.running) same
      rw [Option.map_map, Option.map_map] at running
      exact running

theorem halted_of_stop (moved : station.move? .stop = some after) : after.Halted := by
  cases moved
  intro session there
  obtain ⟨earlier, _, rfl⟩ := Option.map_eq_some_iff.mp there
  rfl

theorem Halted.move {move : Move capacity} (halted : station.Halted) (orderly : station.Orderly)
    (moved : station.move? move = some after) (unstarted : move ≠ .start) : after.Halted := by
  have quiet (spares : move.touchesSession = false) : after.Halted :=
    halted.of_running (congrArg _ (session_of_move? moved spares))
  cases move with
  | step id =>
      exact halted.of_running (orderly.tickMove moved).running
  | start => exact absurd rfl unstarted
  | stop => exact halted_of_stop moved
  | readdress nodes =>
      cases moved
      intro session there
      obtain ⟨earlier, opened, rfl⟩ := Option.map_eq_some_iff.mp there
      have rests := halted earlier opened
      split <;> exact rests
  | openSession table config estimator forwards =>
      intro session there
      rw [session_of_openSession moved] at there
      cases opened : station.session with
      | none =>
          rw [opened, Option.none_or] at there
          cases there
          rfl
      | some earlier =>
          rw [opened, Option.some_or, ← opened] at there
          exact halted session there
  | _ => exact quiet rfl

theorem startsLeft_of_asks {request : Request} {point : CallerPoint}
    (asks : station.asks? id = some (request, point)) :
    station.startsLeft id = point.startsLeft := by
  rw [Station.startsLeft, asks]
  rfl

theorem startsLeft_of_rest (rests : station.asks? id = none) : station.startsLeft id = 0 := by
  rw [Station.startsLeft, rests]
  rfl

theorem asks?_of_asking_false (rests : station.asking id = false) : station.asks? id = none :=
  Option.not_isSome_iff_eq_none.mp (Bool.eq_false_iff.mp rests)

theorem Orderly.spends {request : Request} {point : CallerPoint} (orderly : station.Orderly)
    (stepped : station.step? id = some after)
    (asks : station.asks? id = some (request, point)) :
    (station.transmitsRequest after id).toNat + after.startsLeft id ≤ point.startsLeft := by
  obtain ⟨task, next, given, effect, renames⟩ := orderly.step_task stepped
  have calls : task.call? = some (.send request, point) :=
    (call?_of_task renames.before).symm.trans (call?_of_asks? asks)
  have sends : (station.transmitsRequest after id).toNat ≤
      (point.writing?.any Written.startsTransmitter).toNat := by
    rw [← Task.writing?_of_call? calls]
    rcases effect.writes with same | written
    · have nothing : station.wrote after = [] := wrote_eq same
      rw [transmitsRequest, nothing]
      simp
    · rw [transmitsRequest, wrote_eq written]
      cases task.writing? with
      | none => simp
      | some write => cases station.asking id <;> simp
  cases orderly.tickMove stepped with
  | begins _ _ _ _ rested => cases asks.symm.trans rested
  | @goesOn _ _ later asked goes =>
      cases asks.symm.trans asked
      have call := call?_of_asks? goes
      rcases effect.of_call calls with ⟨_, _, rfl, goesOn, turns⟩ | ⟨_, rests, _⟩
      · cases ((call?_of_task renames.later).trans goesOn).symm.trans call
        rw [startsLeft_of_asks goes]
        exact Nat.le_trans (Nat.add_le_add_right sends _) turns.startsLeft
      · exact absurd rfl (renames.call_elsewhere rests call).1
  | ends _ _ rests =>
      rw [startsLeft_of_rest rests]
      exact Nat.le_trans sends point.writing?_startsLeft
  | aside rested => cases asks.symm.trans rested

theorem startsLeft_le (same : ∀ call, after.asks? id = some call → station.asks? id = some call) :
    after.startsLeft id ≤ station.startsLeft id := by
  cases asks : after.asks? id with
  | none =>
      rw [startsLeft_of_rest asks]
      exact Nat.zero_le _
  | some call => rw [startsLeft_of_asks asks, startsLeft_of_asks (same call asks)]

theorem Orderly.startsLeft_unstepped {move : Move capacity} (orderly : station.Orderly)
    (moved : station.move? move = some after) (unstepped : move ≠ .step id) :
    after.startsLeft id ≤ station.startsLeft id :=
  startsLeft_le fun _ asks => orderly.asks_unstepped moved unstepped asks

/-- Since the session was halted, with so many ticks begun, none has begun, and the last of
them has been transmitted once at most and will not be twice. -/
structure Silent (log : ScheduleLog) (station : Station slots size capacity) (count : Nat) :
    Prop where
  begun : log.begun = count
  halted : station.Halted
  own : ∀ tick ∈ log.sent, tick = count ∧ 0 < count
  spent : ∀ id, log.sent.length + station.startsLeft id ≤ 1

theorem Silent.sent_last {count : Nat} (silent : station.Silent log count) :
    log.sent = [] ∨ 0 < count ∧ log.sent = [count] := by
  have spent := silent.spent 0
  cases sent : log.sent with
  | nil => exact .inl rfl
  | cons tick others =>
      obtain ⟨same, begun⟩ := silent.own tick (by rw [sent]; exact List.mem_cons_self)
      rw [sent, List.length_cons] at spent
      have none : others = [] := List.eq_nil_of_length_eq_zero (by omega)
      rw [none, same]
      exact .inr ⟨begun, rfl⟩

/-- What holds in every run with one schedule. -/
structure Scheduled (log : ScheduleLog) (station : Station slots size capacity) : Prop where
  orderly : station.Orderly
  sole : station.Sole
  numbered : ∀ id, station.asking id = true → log.number id = log.begun ∧ 0 < log.begun
  once : ∀ id, station.startsLeft id ≤ 1
  unstarted : log.started = false → log.halted = some 0
  silent : ∀ count, log.halted = some count → station.Silent log count

theorem scheduled_of_fresh (fresh : station.Fresh) : station.Scheduled {} := by
  have orderly := orderly_of_fresh fresh
  have sole := sole_of_fresh fresh
  obtain ⟨device, config, handler, link, _, rfl⟩ := fresh
  refine ⟨orderly, sole, nofun, fun id => Nat.zero_le _, fun _ => rfl, ?_⟩
  rintro count ⟨⟩
  exact ⟨rfl, nofun, nofun, fun id => Nat.zero_le _⟩

/-- What lets no tick begin and no request be transmitted. -/
theorem Scheduled.calm (scheduled : station.Scheduled log) (orderly : after.Orderly)
    (sole : after.Sole)
    (asks : ∀ id call, after.asks? id = some call → station.asks? id = some call)
    (halted : log.halted.isSome = true → station.Halted → after.Halted) :
    after.Scheduled log := by
  have fewer (id : TaskId) : after.startsLeft id ≤ station.startsLeft id :=
    startsLeft_le (asks id)
  refine ⟨orderly, sole, ?_, fun id => Nat.le_trans (fewer id) (scheduled.once id),
    scheduled.unstarted, ?_⟩
  · intro id under
    obtain ⟨call, under⟩ := Option.isSome_iff_exists.mp under
    exact scheduled.numbered id (Option.isSome_of_eq_some (asks id call under))
  · intro count since
    have silent := scheduled.silent count since
    exact ⟨silent.begun, halted (Option.isSome_of_eq_some since) silent.halted, silent.own,
      fun id => Nat.le_trans (Nat.add_le_add_left (fewer id) _) (silent.spent id)⟩

theorem Scheduled.comes_up (scheduled : station.Scheduled log)
    (stepped : station.step? id = some after) (before : station.asking id = false)
    (later : after.asking id = true) :
    (∃ session, station.session = some session ∧ session.running = true) ∧
      ∃ request, after.asks? id = some (request, .gate) := by
  cases scheduled.orderly.tickMove stepped with
  | begins found has runs _ _ asks =>
      rcases runs with rfl | running
      · cases scheduled.sole.noTick id _ found
      · exact ⟨⟨_, has, running⟩, _, asks⟩
  | goesOn asked => exact absurd (asking_of_asks asked) (ne_true_of_eq_false before)
  | ends _ asked => exact absurd (asking_of_asks asked) (ne_true_of_eq_false before)
  | aside _ rests => exact absurd later (ne_true_of_eq_false (asking_of_rest rests))

theorem Scheduled.begins (scheduled : station.Scheduled log) (orderly : after.Orderly)
    (sole : after.Sole) (stepped : station.step? id = some after)
    (before : station.asking id = false) (later : after.asking id = true) :
    after.Scheduled { log with
      begun := log.begun + 1
      number := fun other => if other = id then log.begun + 1 else log.number other } := by
  obtain ⟨⟨session, opened, running⟩, request, asks⟩ :=
    scheduled.comes_up stepped before later
  have unhalted (count : Nat) (since : log.halted = some count) : False := by
    have rests := (scheduled.silent count since).halted session opened
    rw [rests] at running
    cases running
  refine ⟨orderly, sole, ?_, ?_, scheduled.unstarted, ?_⟩
  · intro other under
    obtain ⟨further, also⟩ := Option.isSome_iff_exists.mp under
    have same := sole.asks_single asks also
    subst same
    exact ⟨if_pos rfl, Nat.succ_pos _⟩
  · intro other
    by_cases same : other = id
    · subst same
      rw [startsLeft_of_asks asks]
      exact Nat.le_refl _
    · have moved : station.move? (.step id) = some after := stepped
      have apart : Move.step id ≠ (Move.step other : Move capacity) := fun move =>
        same (Move.step.inj move).symm
      exact Nat.le_trans (scheduled.orderly.startsLeft_unstepped moved apart) (scheduled.once other)
  · exact fun count since => (unhalted count since).elim

theorem Scheduled.goes_on (scheduled : station.Scheduled log) (orderly : after.Orderly)
    (sole : after.Sole) (stepped : station.step? id = some after)
    (under : station.asking id = true) :
    after.Scheduled (log.transmit station after id) := by
  have moved : station.move? (.step id) = some after := stepped
  obtain ⟨⟨request, point⟩, asks⟩ := Option.isSome_iff_exists.mp under
  have spends := scheduled.orderly.spends stepped asks
  rw [← startsLeft_of_asks asks] at spends
  have others (other : TaskId) (apart : other ≠ id) :
      after.startsLeft other ≤ station.startsLeft other ∧ after.asks? other = none := by
    have unstepped : Move.step id ≠ (Move.step other : Move capacity) := fun move =>
      apart (Move.step.inj move).symm
    refine ⟨scheduled.orderly.startsLeft_unstepped moved unstepped, ?_⟩
    cases also : after.asks? other with
    | none => rfl
    | some call =>
        have there := scheduled.orderly.asks_unstepped moved unstepped also
        exact absurd (scheduled.sole.asks_single asks there).symm apart
  refine ⟨orderly, sole, ?_, ?_, scheduled.unstarted, ?_⟩
  · intro other still
    by_cases same : other = id
    · subst same
      exact scheduled.numbered other under
    · rw [asking, (others other same).2] at still
      cases still
  · intro other
    by_cases same : other = id
    · subst same
      exact Nat.le_trans (Nat.le_add_left _ _) (Nat.le_trans spends (scheduled.once other))
    · exact Nat.le_trans (others other same).1 (scheduled.once other)
  · intro count since
    have silent := scheduled.silent count since
    have spent := silent.spent id
    have sent : (log.transmit station after id).sent.length =
        (station.transmitsRequest after id).toNat + log.sent.length := by
      unfold ScheduleLog.transmit
      cases station.transmitsRequest after id <;> simp [Nat.add_comm]
    have halted : after.Halted := by
      apply silent.halted.move scheduled.orderly moved
      intro starts
      cases starts
    refine ⟨silent.begun, halted, ?_, ?_⟩
    · intro tick member
      rcases List.mem_append.mp member with new | old
      · split at new
        · obtain ⟨number, begun⟩ := scheduled.numbered id under
          rw [List.mem_singleton.mp new, number, silent.begun]
          rw [silent.begun] at begun
          exact ⟨rfl, begun⟩
        · cases new
      · exact silent.own tick old
    · intro other
      rw [sent]
      by_cases same : other = id
      · subst same
        omega
      · rw [startsLeft_of_rest (others other same).2]
        omega

theorem Scheduled.step (scheduled : station.Scheduled log)
    (stepped : station.step? id = some after) (orderly : after.Orderly) (sole : after.Sole) :
    after.Scheduled (log.note station (.step id) after) := by
  have moved : station.move? (.step id) = some after := stepped
  rw [ScheduleLog.note, ScheduleLog.begin]
  cases before : station.asking id with
  | true => exact scheduled.goes_on orderly sole stepped before
  | false =>
      have unsent : log.transmit station after id = log := by
        rw [ScheduleLog.transmit, transmitsRequest, before]
        rfl
      rw [unsent]
      cases later : after.asking id with
      | true => exact scheduled.begins orderly sole stepped before later
      | false =>
          refine scheduled.calm orderly sole ?_ fun _ halted =>
            halted.move scheduled.orderly moved nofun
          intro other call asks
          by_cases same : other = id
          · subst same
            rw [asks?_of_asking_false later] at asks
            cases asks
          · exact scheduled.orderly.asks_unstepped moved
              (fun move => same (Move.step.inj move).symm) asks

theorem Scheduled.move {move : Move capacity} (scheduled : station.Scheduled log)
    (allowed : soleSchedule station move = true) (moved : station.move? move = some after) :
    after.Scheduled (log.note station move after) := by
  have orderly := scheduled.orderly.move moved
  have sole := scheduled.sole.move scheduled.orderly allowed moved
  have calm {log : ScheduleLog} (scheduled : station.Scheduled log)
      (unstepped : ∀ id, move ≠ .step id)
      (halted : log.halted.isSome = true → station.Halted → after.Halted) :
      after.Scheduled log :=
    scheduled.calm orderly sole
      (fun id call asks => scheduled.orderly.asks_unstepped moved (unstepped id) asks) halted
  have halts (unstarted : move ≠ .start) (halted : station.Halted) : after.Halted :=
    halted.move scheduled.orderly moved unstarted
  cases move with
  | step id => exact scheduled.step moved orderly sole
  | start =>
      rw [ScheduleLog.note]
      split
      · have started : station.Scheduled { log with started := true, halted := none, sent := [] } :=
          ⟨scheduled.orderly, scheduled.sole, scheduled.numbered, scheduled.once, nofun, nofun⟩
        exact calm started nofun nofun
      · rename_i unopened
        refine calm scheduled nofun fun _ _ => ?_
        cases moved
        intro session there
        obtain ⟨earlier, opened, _⟩ := Option.map_eq_some_iff.mp there
        exact absurd (Option.isSome_of_eq_some opened) unopened
  | stop =>
      have stopped := calm scheduled nofun fun _ => halts nofun
      rw [ScheduleLog.note]
      split
      · rename_i stops
        refine ⟨orderly, sole, stopped.numbered, stopped.once, ?_, ?_⟩
        · intro unstarted
          rw [stopped.unstarted unstarted] at stops
          simp at stops
        · rintro count ⟨⟩
          refine ⟨rfl, halted_of_stop moved, nofun, fun id => ?_⟩
          rw [List.length_nil, Nat.zero_add]
          exact stopped.once id
      · exact stopped
  | _ => exact calm scheduled nofun fun _ => halts nofun

theorem Scheduled.run {moves : List (Move capacity)} (scheduled : station.Scheduled log)
    (ran : run? soleSchedule moves station = some after) :
    after.Scheduled (recordOf ScheduleLog.note moves log station) :=
  run?_invariant ScheduleLog.note (fun log station => station.Scheduled log)
    (fun _ _ _ _ scheduled allowed moved => scheduled.move allowed moved) moves log scheduled ran

/-- Where one schedule issues all ticks, each begins while the session runs. Before the
first start nothing has begun and nothing has been transmitted for a tick. Since a stop, as
long as the session is not started again, no tick has begun, and the one transmission there
may have been was for the last tick that had begun before. -/
theorem stopped_schedule_is_silent {opened station : Station slots size capacity}
    {moves : List (Move capacity)} (fresh : opened.Fresh)
    (ran : run? soleSchedule moves opened = some station) :
    let log := recordOf ScheduleLog.note moves {} opened
    (∀ id after, station.move? (.step id) = some after → station.asking id = false →
      after.asking id = true →
        ∃ session, station.session = some session ∧ session.running = true) ∧
    (log.started = false → log.begun = 0 ∧ log.sent = []) ∧
    ∀ count, log.halted = some count →
      log.begun = count ∧ (log.sent = [] ∨ 0 < count ∧ log.sent = [count]) := by
  have scheduled := (scheduled_of_fresh fresh).run ran
  have since (count : Nat) (halted : _ = some count) := scheduled.silent count halted
  refine ⟨?_, ?_, fun count halted => ⟨(since count halted).begun, (since count halted).sent_last⟩⟩
  · intro id after moved before later
    exact (scheduled.comes_up moved before later).1
  · intro unstarted
    have silent := since 0 (scheduled.unstarted unstarted)
    refine ⟨silent.begun, ?_⟩
    rcases silent.sent_last with nothing | ⟨some, _⟩
    · exact nothing
    · exact absurd some (Nat.lt_irrefl 0)

def schedulesTick : List (Move 3) :=
  [.submit 1 (.schedule .begin), .step 1, .step 1, .disturb (.pass 1000), .step 1]

def stopsDuringTick : List (Move 3) :=
  startsRanging ++ schedulesTick ++ .stop :: List.replicate 10 (.step 1)

/-- That request is the only one. -/
theorem stop_lets_one_request_out :
    ∃ (opened station : Station 2 127 3) (log : ScheduleLog),
      opened.Fresh ∧ run? soleSchedule stopsDuringTick opened = some station ∧
      log = recordOf ScheduleLog.note stopsDuringTick {} opened ∧
      log.halted = some 1 ∧ log.begun = 1 ∧ log.sent = [1] := by
  have evaluated : (do
      let opened : Station 2 127 3 ← open? Device.unused {} .ranging
      let station ← run? soleSchedule stopsDuringTick opened
      let log := recordOf ScheduleLog.note stopsDuringTick {} opened
      return (log.halted, log.sent.isEmpty)) = some (some 1, false) := by
    cbv
  obtain ⟨opened, isOpen, evaluated⟩ := Option.bind_eq_some_iff.mp evaluated
  obtain ⟨station, ran, evaluated⟩ := Option.bind_eq_some_iff.mp evaluated
  have seen := Option.some.inj evaluated
  simp only [Prod.mk.injEq] at seen
  obtain ⟨halted, transmitted⟩ := seen
  have fresh := fresh_of_open? isOpen
  obtain ⟨begun, sent⟩ := (stopped_schedule_is_silent fresh ran).2.2 1 halted
  refine ⟨opened, station, _, fresh, ran, rfl, halted, begun, ?_⟩
  rcases sent with nothing | ⟨_, one⟩
  · rw [nothing] at transmitted
    cases transmitted
  · exact one

end Station

end UwbRadio
