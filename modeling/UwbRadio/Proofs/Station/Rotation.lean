import UwbRadio.Proofs.Station.Ticks

/-!
The rotation of the ticks through the table. As long as a tick begins only when none is
under way and none is dropped, the ticks since the session was made or last started ask
the pairs in the order of the table, one after the other and round after round. A start
resets the index at once, but a tick that is under way then still moves it on when it
ends, and the ticks after the start begin one pair late.

`RotationLog` records a run: the positions asked since the session was made or last
started, the ticks that have ended since, and those that were under way at that moment.
-/

namespace UwbRadio

open Ranging (Session Pair Rotation)

structure RotationLog where
  visited : List Nat := []
  ended : Nat := 0
  /-- How many ticks were under way when the record began anew. -/
  earlier : Nat := 0
  taken : TaskId → Option (UInt16 × Pair) := fun _ => none

namespace Station

variable {slots size capacity : Nat}

def beginsTick (station : Station slots size capacity) (id : TaskId) : Bool :=
  (station.step? id).any fun after => !station.asking id && after.asking id

/-- A tick begins only when none is under way, and none is dropped. Tables have an entry
for each pair of their nodes. -/
def ticksInOrder : Rule slots size capacity
  | station, .step id => !station.beginsTick id || station.ticking == 0
  | station, .cancel id => !station.asking id
  | _, .openSession table _ _ _ => decide table.Complete
  | _, _ => true

end Station

namespace RotationLog

variable {slots size capacity : Nat}

def begin (log : RotationLog) (station : Station slots size capacity) (id : TaskId) : RotationLog :=
  match station.session with
  | none => log
  | some session =>
      { log with
        visited := session.index % session.table.size :: log.visited
        taken := fun other =>
          if other = id then session.nextPair?.map fun pair => (session.table.master, pair)
          else log.taken other }

def anew (log : RotationLog) (station : Station slots size capacity) : RotationLog :=
  { log with visited := [], ended := 0, earlier := station.ticking }

def note (log : RotationLog) (station : Station slots size capacity) :
    Move capacity → Station slots size capacity → RotationLog
  | .step id, after =>
      match station.asking id, after.asking id with
      | false, true => log.begin station id
      | true, false => { log with ended := log.ended + 1 }
      | _, _ => log
  | .start, _ => log.anew station
  | .openSession _ _ _ _, _ => if station.session.isNone then log.anew station else log
  | _, _ => log

/-- The rotation is where the ticks that have ended have brought it, and the ticks that
have begun have gone through the table in its order. -/
structure Describes (log : RotationLog) (rotation : Rotation) : Prop where
  complete : rotation.size = Ranging.pairCount rotation.nodes
  index : rotation.index = log.ended % max rotation.size 1
  visits : log.visited.reverse =
    (List.range log.visited.length).map fun count => (count + log.earlier) % rotation.size

theorem describes_anew {station : Station slots size capacity} {rotation : Rotation}
    (log : RotationLog) (complete : rotation.size = Ranging.pairCount rotation.nodes)
    (first : rotation.index = 0) : (log.anew station).Describes rotation where
  complete := complete
  index := first.trans (Nat.zero_mod _).symm
  visits := rfl

end RotationLog

namespace Station

variable {slots size capacity : Nat} {station after : Station slots size capacity}
  {log : RotationLog} {id : TaskId}

structure Rotating (log : RotationLog) (station : Station slots size capacity) : Prop where
  orderly : station.Orderly
  describes : ∀ session ∈ station.session, log.Describes session.rotation
  balance : log.ended + station.ticking = log.visited.length + log.earlier
  single : station.ticking ≤ 1
  early : log.earlier ≤ 1
  unopened : station.session = none → station.ticking = 0

theorem rotating_of_fresh (fresh : station.Fresh) : station.Rotating {} := by
  have orderly := orderly_of_fresh fresh
  obtain ⟨device, config, handler, link, _, rfl⟩ := fresh
  refine ⟨orderly, ?_, rfl, Nat.zero_le _, Nat.zero_le _, fun _ => rfl⟩
  intro session opened
  cases opened

theorem alone_of_ticksInOrder (allowed : ticksInOrder station (.step id) = true)
    (stepped : station.step? id = some after) (before : station.asking id = false)
    (later : after.asking id = true) : station.ticking = 0 := by
  have begins : station.beginsTick id = true := by
    rw [beginsTick, stepped, Option.any_some, before, later]
    rfl
  rw [ticksInOrder, begins] at allowed
  simpa using allowed

theorem Rotating.begins {session : Session capacity} (rotating : station.Rotating log)
    (orderly : after.Orderly) (alone : station.ticking = 0)
    (opened : station.session = some session) (some : 0 < session.table.size)
    (same : after.session = station.session) (one : after.ticking = 1) :
    after.Rotating (log.begin station id) := by
  have describes := rotating.describes session opened
  have balance := rotating.balance
  have ended : log.ended = log.visited.length + log.earlier := by omega
  have position : session.index % session.table.size =
      (log.visited.length + log.earlier) % session.table.size := by
    have index : session.index = log.ended % max session.table.size 1 := describes.index
    rw [index, ended, Nat.max_eq_left some, Nat.mod_mod]
  rw [RotationLog.begin, opened]
  refine ⟨orderly, ?_, ?_, Nat.le_of_eq one, rotating.early, ?_⟩
  · intro other there
    rw [same, opened] at there
    cases there
    refine ⟨describes.complete, describes.index, ?_⟩
    rw [List.reverse_cons, List.length_cons, List.range_succ, List.map_append, describes.visits,
      position]
    rfl
  · have total : log.ended + after.ticking = log.visited.length + 1 + log.earlier := by omega
    exact total
  · intro absent
    rw [same, opened] at absent
    cases absent

theorem Rotating.ends {session : Session capacity} {flags : Status}
    (rotating : station.Rotating log) (orderly : after.Orderly)
    (opened : station.session = some session)
    (ended : after.session = some (session.endTick flags))
    (fewer : after.ticking + 1 = station.ticking) :
    after.Rotating { log with ended := log.ended + 1 } := by
  have describes := rotating.describes session opened
  have balance := rotating.balance
  have single := rotating.single
  refine ⟨orderly, ?_, ?_, by omega, rotating.early, ?_⟩
  · intro other there
    rw [ended] at there
    cases there
    refine ⟨describes.complete, ?_, describes.visits⟩
    have index : session.index = log.ended % max session.table.size 1 := describes.index
    have moved : (session.index + 1) % max session.table.size 1 =
        (log.ended + 1) % max session.table.size 1 := by
      rw [index, Nat.mod_add_mod]
    exact moved
  · have total : log.ended + 1 + after.ticking = log.visited.length + log.earlier := by omega
    exact total
  · intro absent
    rw [ended] at absent
    cases absent

theorem Rotating.aside (rotating : station.Rotating log) (orderly : after.Orderly)
    (same : after.session.map Session.rotation = station.session.map Session.rotation)
    (ticking : after.ticking = station.ticking) : after.Rotating log := by
  refine ⟨orderly, ?_, ?_, ?_, rotating.early, ?_⟩
  · intro session there
    have turned : station.session.map Session.rotation = some session.rotation := by
      rw [← same, there]
      rfl
    obtain ⟨earlier, opened, equal⟩ := Option.map_eq_some_iff.mp turned
    rw [← equal]
    exact rotating.describes earlier opened
  · rw [ticking]
    exact rotating.balance
  · rw [ticking]
    exact rotating.single
  · intro absent
    rw [absent] at same
    rw [ticking]
    exact rotating.unopened (Option.map_eq_none_iff.mp same.symm)

theorem Rotating.step (rotating : station.Rotating log)
    (allowed : ticksInOrder station (.step id) = true) (stepped : station.step? id = some after) :
    after.Rotating (log.note station (.step id) after) := by
  have moved : station.move? (.step id) = some after := stepped
  have orderly := rotating.orderly.move moved
  have counted := rotating.orderly.ticking_step stepped
  rw [RotationLog.note]
  cases rotating.orderly.tickMove stepped with
  | begins _ has _ turn rested asks kept =>
      have before := asking_of_rest rested
      have later := asking_of_asks asks
      have alone := alone_of_ticksInOrder allowed stepped before later
      simp only [before, later]
      rw [before, later, alone] at counted
      exact rotating.begins orderly alone has (Session.nextRequest?_eq_some turn).1 kept counted
  | goesOn asked asks kept =>
      have before := asking_of_asks asked
      have later := asking_of_asks asks
      simp only [before, later]
      rw [before, later] at counted
      exact rotating.aside orderly (congrArg _ kept) (Nat.add_right_cancel counted)
  | ends has asked rests ended =>
      have before := asking_of_asks asked
      have later := asking_of_rest rests
      simp only [before, later]
      rw [before, later] at counted
      exact rotating.ends orderly has ended counted
  | aside rested rests same =>
      have before := asking_of_rest rested
      have later := asking_of_rest rests
      simp only [before, later]
      rw [before, later] at counted
      exact rotating.aside orderly same counted

theorem Rotating.anew (rotating : station.Rotating log) (orderly : after.Orderly)
    (describes : ∀ session ∈ after.session,
      session.rotation.size = Ranging.pairCount session.rotation.nodes ∧ session.index = 0)
    (ticking : after.ticking = station.ticking)
    (unopened : after.session = none → station.session = none) :
    after.Rotating (log.anew station) := by
  refine ⟨orderly, ?_, ?_, ?_, rotating.single, ?_⟩
  · intro session there
    obtain ⟨complete, first⟩ := describes session there
    exact log.describes_anew complete first
  · rw [ticking]
    rfl
  · rw [ticking]
    exact rotating.single
  · intro absent
    rw [ticking]
    exact rotating.unopened (unopened absent)

theorem Rotating.move {move : Move capacity} (rotating : station.Rotating log)
    (allowed : ticksInOrder station move = true) (moved : station.move? move = some after) :
    after.Rotating (log.note station move after) := by
  have orderly := rotating.orderly.move moved
  have calm (unstepped : ∀ id, move ≠ .step id) : after.ticking = station.ticking := by
    apply rotating.orderly.ticking_move moved unstepped
    rintro id rfl
    simpa [ticksInOrder] using allowed
  have quiet (spares : move.touchesSession = false) (unstepped : ∀ id, move ≠ .step id) :
      after.Rotating log :=
    rotating.aside orderly (congrArg _ (session_of_move? moved spares)) (calm unstepped)
  cases move with
  | step id => exact rotating.step allowed moved
  | start =>
      have ticking := calm nofun
      cases moved
      refine rotating.anew orderly ?_ ticking Option.map_eq_none_iff.mp
      intro session there
      obtain ⟨earlier, opened, rfl⟩ := Option.map_eq_some_iff.mp there
      exact ⟨(rotating.describes earlier opened).complete, rfl⟩
  | stop =>
      have ticking := calm nofun
      cases moved
      refine ⟨orderly, ?_, rotating.balance, rotating.single, rotating.early, ?_⟩
      · intro session there
        obtain ⟨earlier, opened, rfl⟩ := Option.map_eq_some_iff.mp there
        have describes := rotating.describes earlier opened
        exact ⟨describes.complete, describes.index, describes.visits⟩
      · intro absent
        exact rotating.unopened (Option.map_eq_none_iff.mp absent)
  | readdress nodes =>
      refine rotating.aside orderly (session_of_readdress moved ?_) (calm nofun)
      intro session opened
      exact (rotating.describes session opened).complete
  | openSession table config estimator forwards =>
      have made := session_of_openSession moved
      rw [RotationLog.note]
      cases opened : station.session with
      | some session =>
          rw [opened, Option.some_or, ← opened] at made
          exact rotating.aside orderly (congrArg _ made) (calm nofun)
      | none =>
          rw [opened, Option.none_or] at made
          refine rotating.anew orderly ?_ (calm nofun) (fun _ => opened)
          intro session there
          rw [made] at there
          cases there
          exact ⟨of_decide_eq_true allowed, rfl⟩
  | _ => exact quiet rfl nofun

theorem Rotating.run {moves : List (Move capacity)} (rotating : station.Rotating log)
    (ran : run? ticksInOrder moves station = some after) :
    after.Rotating (recordOf RotationLog.note moves log station) :=
  run?_invariant RotationLog.note (fun log station => station.Rotating log)
    (fun _ _ _ _ rotating allowed moved => rotating.move allowed moved) moves log rotating ran

/-- A tick that begins asks the pair that is as far along as ticks have begun since the
session was made or last started, counted from the ones that were under way then. -/
theorem Rotating.asks {session : Session capacity} (rotating : station.Rotating log)
    (opened : station.session = some session) (alone : station.ticking = 0)
    (stepped : station.step? id = some after) (before : station.asking id = false)
    (later : after.asking id = true) :
    ∃ pair, session.table.pairs[(log.visited.length + log.earlier) % session.table.size]? =
        some pair ∧ session.nextPair? = some pair ∧
      after.asks? id = some (session.requestTo pair, .gate) := by
  cases rotating.orderly.tickMove stepped with
  | begins _ has _ turn _ asks =>
      rw [opened] at has
      cases has
      obtain ⟨some, pair, found, next, rfl⟩ := Session.nextRequest?_eq_some turn
      refine ⟨pair, ?_, next, asks⟩
      have describes := rotating.describes session opened
      have index : session.index = log.ended % max session.table.size 1 := describes.index
      have balance := rotating.balance
      have ended : log.ended = log.visited.length + log.earlier := by omega
      rw [index, ended, Nat.max_eq_left some, Nat.mod_mod] at found
      exact found
  | goesOn asked => exact absurd (asking_of_asks asked) (ne_true_of_eq_false before)
  | ends has asked => exact absurd (asking_of_asks asked) (ne_true_of_eq_false before)
  | aside _ rests => exact absurd later (ne_true_of_eq_false (asking_of_rest rests))

/-- After a start, the ticks that begin one after the other ask the pairs in the order
of the table, from the first pair on if no tick was under way at the start, and from the
second on if one was. -/
theorem start_counts_the_tick_under_way {opened station : Station slots size capacity}
    {moves : List (Move capacity)} (fresh : opened.Fresh)
    (ran : run? ticksInOrder moves opened = some station) :
    let log := recordOf RotationLog.note moves {} opened
    log.earlier ≤ 1 ∧
    ∀ id session after, station.session = some session → station.ticking = 0 →
      station.move? (.step id) = some after → station.asking id = false →
      after.asking id = true →
        ∃ pair, session.table.pairs[(log.visited.length + log.earlier) % session.table.size]? =
            some pair ∧ after.asks? id = some (session.requestTo pair, .gate) := by
  have rotating := (rotating_of_fresh fresh).run ran
  refine ⟨rotating.early, ?_⟩
  intro id session after opened alone moved before later
  obtain ⟨pair, found, _, asks⟩ := rotating.asks opened alone moved before later
  exact ⟨pair, found, asks⟩

def tickFails (id : TaskId) : List (Move 3) :=
  [.submit id (.tick .begin), .step id, .step id, .step id, .step id, .disturb (.faults ⟨0, 1⟩),
    .step id]

def startsBetweenTicks : List (Move 3) :=
  startsRanging ++ tickFails 1 ++ tickFails 2 ++ [.start, .submit 3 (.tick .begin)]

/-- The next tick asks the first pair. -/
theorem start_between_ticks_begins_anew :
    ∃ (opened station after : Station 2 127 3) (session : Session 3) (log : RotationLog),
      opened.Fresh ∧ run? ticksInOrder startsBetweenTicks opened = some station ∧
      log = recordOf RotationLog.note startsBetweenTicks {} opened ∧
      log.visited = [] ∧ log.earlier = 0 ∧ station.session = some session ∧
      session.table.size = 3 ∧ station.move? (.step 3) = some after ∧
      ∃ pair, session.table.pairs[0]? = some pair ∧
        after.asks? 3 = some (session.requestTo pair, .gate) := by
  have evaluated : (do
      let opened : Station 2 127 3 ← open? Device.unused {} .ranging
      let station ← run? ticksInOrder startsBetweenTicks opened
      let after ← station.move? (.step 3)
      let session ← station.session
      let log := recordOf RotationLog.note startsBetweenTicks {} opened
      return (log.visited, log.earlier, station.ticking, station.asking 3, after.asking 3,
        session.table.size)) = some ([], 0, 0, false, true, 3) := by
    cbv
  obtain ⟨opened, isOpen, evaluated⟩ := Option.bind_eq_some_iff.mp evaluated
  obtain ⟨station, ran, evaluated⟩ := Option.bind_eq_some_iff.mp evaluated
  obtain ⟨after, moved, evaluated⟩ := Option.bind_eq_some_iff.mp evaluated
  obtain ⟨session, there, evaluated⟩ := Option.bind_eq_some_iff.mp evaluated
  have seen := Option.some.inj evaluated
  simp only [Prod.mk.injEq] at seen
  obtain ⟨visited, earlier, alone, before, later, size⟩ := seen
  have fresh := fresh_of_open? isOpen
  have asks := (start_counts_the_tick_under_way fresh ran).2 3 session after there alone moved
    before later
  rw [visited, earlier] at asks
  rw [List.length_nil, Nat.add_zero, Nat.zero_mod] at asks
  exact ⟨opened, station, after, session, _, fresh, ran, rfl, visited, earlier, there, size,
    moved, asks⟩

def waitingTickFails : List (Move 3) :=
  [.disturb (.faults ⟨0, 1⟩), .step 1, .step 1, .step 1, .step 1]

def startsDuringTick : List (Move 3) :=
  startsRanging ++ .submit 1 (.tick .begin) :: .step 1 :: .start :: waitingTickFails ++
    [.submit 2 (.tick .begin)]

/-- The first tick that begins after the start asks the second pair of three. -/
theorem start_during_tick_skips_first_pair :
    ∃ (opened station after : Station 2 127 3) (session : Session 3) (log : RotationLog),
      opened.Fresh ∧ run? ticksInOrder startsDuringTick opened = some station ∧
      log = recordOf RotationLog.note startsDuringTick {} opened ∧
      log.visited = [] ∧ log.earlier = 1 ∧ station.ticking = 0 ∧ station.session = some session ∧
      session.table.pairs = [⟨1, 2, none⟩, ⟨1, 3, none⟩, ⟨2, 3, none⟩] ∧
      station.move? (.step 2) = some after ∧
      after.asks? 2 = some (session.requestTo ⟨1, 3, none⟩, .gate) ∧
      session.requestTo ⟨1, 3, none⟩ ≠ session.requestTo ⟨1, 2, none⟩ := by
  have evaluated : (do
      let opened : Station 2 127 3 ← open? Device.unused {} .ranging
      let station ← run? ticksInOrder startsDuringTick opened
      let after ← station.move? (.step 2)
      let session ← station.session
      let log := recordOf RotationLog.note startsDuringTick {} opened
      return (log.visited, log.earlier, station.ticking, session.table.pairs,
        decide (after.asks? 2 = some (session.requestTo ⟨1, 3, none⟩, .gate)),
        decide (session.requestTo ⟨1, 3, none⟩ = session.requestTo ⟨1, 2, none⟩))) =
      some ([], 1, 0, [⟨1, 2, none⟩, ⟨1, 3, none⟩, ⟨2, 3, none⟩], true, false) := by
    cbv
  obtain ⟨opened, isOpen, evaluated⟩ := Option.bind_eq_some_iff.mp evaluated
  obtain ⟨station, ran, evaluated⟩ := Option.bind_eq_some_iff.mp evaluated
  obtain ⟨after, moved, evaluated⟩ := Option.bind_eq_some_iff.mp evaluated
  obtain ⟨session, there, evaluated⟩ := Option.bind_eq_some_iff.mp evaluated
  have seen := Option.some.inj evaluated
  simp only [Prod.mk.injEq, decide_eq_true_eq, decide_eq_false_iff_not] at seen
  obtain ⟨visited, earlier, alone, pairs, asks, differ⟩ := seen
  exact ⟨opened, station, after, session, _, fresh_of_open? isOpen, ran, rfl, visited, earlier,
    alone, there, pairs, moved, asks, differ⟩

end Station

end UwbRadio
