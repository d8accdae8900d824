import UwbRadio.Proofs.Link.Faults
import UwbRadio.Proofs.Station.Between
import UwbRadio.Proofs.Station.Report
import UwbRadio.Proofs.Station.Rotation

/-!
The faults that a session shows of its last request. When a tick ends they are those that
the link shows, which are the flag of the tick's result and what is stale: what an event has
set before the start failed, or, if the tick has failed before its transaction began, what
the transaction before it has left. So a tick that cannot silence the radio shows the
faults of the tick before it.
-/

namespace UwbRadio

open Ranging (LinkedSession Session Table)

theorem Ranging.LinkedSession.flagsOf_eq {slots size : Nat} {link after : Link slots size}
    {id : TaskId} {exchange : Exchange} {point : CallerPoint}
    {result : Except (Error BusFault) Status}
    (stepped : link.callerStep id exchange point = .done after result) :
    flagsOf after result = after.status := by
  cases result with
  | ok status => exact ((Link.callerTurns_of_eq stepped).ok_status rfl).symm
  | error error => rfl

namespace Ranging.Session

variable {capacity : Nat}

def standing (session : Session capacity) : Nat × Nat × Status :=
  (session.table.nodes, session.table.size, session.faults)

theorem size_of_unpaired {session : Session capacity} (unpaired : session.nextRequest? = none) :
    session.table.size = 0 := by
  have none : session.nextPair? = none := Option.map_eq_none_iff.mp unpaired
  have least : session.table.size ≤ session.index % max session.table.size 1 :=
    List.getElem?_eq_none_iff.mp none
  have bound : session.index % max session.table.size 1 < max session.table.size 1 :=
    Nat.mod_lt _ (by omega)
  omega

theorem standing_of_rotation {earlier later : Option (Session capacity)}
    (same : later.map rotation = earlier.map rotation)
    (kept : later.map faults = earlier.map faults) :
    later.map standing = earlier.map standing := by
  cases earlier with
  | none => rw [Option.map_eq_none_iff.mp same, Option.map_none]
  | some session =>
      obtain ⟨session', rfl, rotation⟩ := Option.map_eq_some_iff.mp same
      have nodes : session'.table.nodes = session.table.nodes := congrArg Rotation.nodes rotation
      have size : session'.table.size = session.table.size := congrArg Rotation.size rotation
      have faults : session'.faults = session.faults := Option.some.inj kept
      rw [Option.map_some, Option.map_some, standing, nodes, size, faults, standing]

end Ranging.Session

namespace Station

variable {slots size capacity : Nat} {station after : Station slots size capacity} {id : TaskId}
  {request : Request} {point : CallerPoint} {session : Session capacity}

/-- The next step of the task is the last of its tick, whose request returns the result. -/
structure TickEnds (station after : Station slots size capacity) (id : TaskId)
    (request : Request) (point : CallerPoint) (result : Except (Error BusFault) Status) : Prop where
  asks : station.asks? id = some (request, point)
  returns : station.returns? id = some (.send request, result)
  moved : station.move? (.step id) = some after

/-- The last turn of a tick: its request returns, and the session takes note of the flags. -/
theorem ticks_end {task : Task} {link : Link slots size}
    {result : Except (Error BusFault) Status} (asks : task.asks? = some (request, point))
    (found : station.task? id = some task) (moved : station.step? id = some after)
    (stepped : station.link.callerStep id (.send request) point = .done link result) :
    after.link = link ∧ ∃ session : Session capacity,
      after.session = some (session.endTick (LinkedSession.flagsOf link result)) := by
  rcases step?_turns found moved with ⟨middle, next, turns, rfl, _⟩ | ⟨middle, ended, turns, rfl, _⟩
  · rcases Task.eq_of_asks? asks with rfl | rfl
    · cases turns with
      | tickAsks _ goesOn => rw [goesOn] at stepped; cases stepped
    · cases turns with
      | scheduleAsks _ goesOn => rw [goesOn] at stepped; cases stepped
      | @scheduleEnds session _ _ _ _ _ returned =>
          rw [returned] at stepped
          cases stepped
          exact ⟨rfl, session, rfl⟩
  · rcases Task.eq_of_asks? asks with rfl | rfl
    · cases turns with
      | @tickEnds session _ _ _ _ _ returned =>
          rw [returned] at stepped
          cases stepped
          exact ⟨rfl, session, rfl⟩
    · cases turns

theorem TickEnds.shows {result : Except (Error BusFault) Status}
    (ends : station.TickEnds after id request point result) :
    ∃ session, after.session = some session ∧ session.faults = after.link.status.faultsOf ∧
      station.link.callerStep id (.send request) point = .done after.link result := by
  have calls := call?_of_asks? ends.asks
  have returns := ends.returns
  rw [returns?, calls, Option.bind_some] at returns
  split at returns
  · rename_i link _ stepped
    cases returns
    obtain ⟨task, found, asks⟩ := Option.bind_eq_some_iff.mp ends.asks
    obtain ⟨rfl, session, noted⟩ := ticks_end asks found ends.moved stepped
    refine ⟨_, noted, ?_, stepped⟩
    rw [LinkedSession.flagsOf_eq stepped]
    rfl
  · cases returns

def callsRest : Rule slots size capacity
  | station, .step id => !station.opens id && (station.returns? id).isNone
  | _, _ => true

theorem opensNone_of_callsRest {move : Move capacity} (allowed : callsRest station move = true) :
    opensNone station move = true := by
  cases move with
  | step id => exact (Bool.and_eq_true_iff.mp allowed).1
  | _ => rfl

/-- No transaction is under way, and the flags are those that the link had. -/
structure Resting (first : Link slots size) (station : Station slots size capacity) : Prop where
  orderly : station.Orderly
  rests : first.Rests station.link

theorem Resting.move {first : Link slots size} {move : Move capacity}
    (resting : station.Resting first) (allowed : callsRest station move = true)
    (moved : station.move? move = some after) : after.Resting first := by
  have orderly := resting.orderly
  refine ⟨orderly.move moved, ?_⟩
  have kept (rests : station.link.Rests after.link) : first.Rests after.link :=
    resting.rests.trans rests
  have ended := resting.rests.ended
  cases orderly.happens moved with
  | @step id task next given effect renames =>
      have own := call?_of_task renames.before
      cases effect.part with
      | @call task next exchange point after later calls stepped goesOn =>
          have asks := (call?_of_task renames.later).trans goesOn
          have unbegun : later.begun = false := by
            refine Bool.eq_false_iff.mpr fun begun => ?_
            have before := begun_of_opensNone (opensNone_of_callsRest allowed) moved
              (own.trans calls) asks begun
            have admits := orderly.admits_call (own.trans calls)
            rw [admits.underWay before] at ended
            cases ended
          exact kept ((Link.callerTurns_of_eq stepped).keeps_rest unbegun ended
            (orderly.admits_call (own.trans calls)))
      | returned calls stepped =>
          have none := (Bool.and_eq_true_iff.mp allowed).2
          rw [returns?_of_done (own.trans calls) stepped] at none
          cases none
      | event stepped =>
          have rests : station.link.Rests after.link :=
            (Link.interruptTurns_of_eq stepped).keeps_rest ended
          exact kept rests
      | handled stepped =>
          have rests : station.link.Rests after.link :=
            (Link.interruptTurns_of_eq stepped).keeps_rest ended
          exact kept rests
      | aside noCall noEvent outside linkAfter =>
          refine kept ?_
          rw [linkAfter]
          exact ⟨ended, rfl⟩
  | cancel linkAfter =>
      refine kept ?_
      rw [linkAfter]
      exact ⟨ended, rfl⟩
  | call names outside quiet linkAfter =>
      rw [linkAfter]
      exact resting.rests
  | action noTask acted =>
      obtain ⟨bus, pool, queue, linkAfter⟩ := acted.frame
      refine kept ?_
      rw [linkAfter]
      exact ⟨ended, rfl⟩

/-- A session is given a table only as one can be made. -/
def completeTables : Rule slots size capacity
  | _, .openSession table _ _ _ => decide table.Complete
  | _, _ => true

/-- A session without a pair has no request, and shows no fault. -/
structure Unasked (station : Station slots size capacity) : Prop where
  orderly : station.Orderly
  complete : ∀ session ∈ station.session, session.table.Complete
  asked : ∀ id, station.asking id = true → ∃ session ∈ station.session, 0 < session.table.size
  clear : ∀ session ∈ station.session, session.table.size = 0 → session.faults = .empty

theorem unasked_of_fresh (fresh : station.Fresh) : station.Unasked := by
  have orderly := orderly_of_fresh fresh
  obtain ⟨device, config, handler, link, _, rfl⟩ := fresh
  exact ⟨orderly, nofun, nofun, nofun⟩

theorem Unasked.aside (unasked : station.Unasked) (orderly : after.Orderly)
    (same : after.session.map Session.standing = station.session.map Session.standing)
    (asks : ∀ id, after.asking id = true → station.asking id = true) : after.Unasked := by
  have earlier {later : Session capacity} (there : later ∈ after.session) :
      ∃ session ∈ station.session, session.table.nodes = later.table.nodes ∧
        session.table.size = later.table.size ∧ session.faults = later.faults := by
    rw [Option.mem_def.mp there] at same
    obtain ⟨session, opened, equal⟩ := Option.map_eq_some_iff.mp same.symm
    simp only [Session.standing, Prod.mk.injEq] at equal
    exact ⟨session, opened, equal⟩
  refine ⟨orderly, ?_, ?_, ?_⟩
  · intro later there
    obtain ⟨session, opened, nodes, size, _⟩ := earlier there
    have complete : session.table.size = Ranging.pairCount session.table.nodes :=
      unasked.complete session opened
    rw [Table.Complete, ← size, ← nodes, complete]
  · intro id asking
    obtain ⟨session, opened, some⟩ := unasked.asked id (asks id asking)
    rw [Option.mem_def.mp opened] at same
    obtain ⟨later, there, equal⟩ := Option.map_eq_some_iff.mp same
    simp only [Session.standing, Prod.mk.injEq] at equal
    exact ⟨later, there, equal.2.1 ▸ some⟩
  · intro later there none
    obtain ⟨session, opened, _, size, faults⟩ := earlier there
    rw [← faults]
    exact unasked.clear session opened (size.trans none)

theorem Unasked.step (unasked : station.Unasked) (stepped : station.step? id = some after) :
    after.Unasked := by
  have moved : station.move? (.step id) = some after := stepped
  have orderly := unasked.orderly.move moved
  have asks (own : after.asking id = true → station.asking id = true) (other : TaskId)
      (asking : after.asking other = true) : station.asking other = true := by
    by_cases same : other = id
    · rw [same] at asking ⊢
      exact own asking
    · refine unasked.orderly.asking_unstepped moved ?_ asking
      exact fun steps => same (Move.step.inj steps).symm
  cases unasked.orderly.tickMove stepped with
  | begins _ has _ turn _ _ kept =>
      refine ⟨orderly, kept ▸ unasked.complete, ?_, kept ▸ unasked.clear⟩
      intro _ _
      exact ⟨_, kept.trans has, (Session.nextRequest?_eq_some turn).1⟩
  | goesOn asked _ kept =>
      exact unasked.aside orderly (congrArg _ kept) (asks fun _ => asking_of_asks asked)
  | @ends now _ _ flags has asked _ ended =>
      have some : 0 < (now.endTick flags).table.size := by
        obtain ⟨session, opened, some⟩ := unasked.asked id (asking_of_asks asked)
        rw [has] at opened
        cases opened
        exact some
      refine ⟨orderly, ?_, fun _ _ => ⟨_, ended, some⟩, ?_⟩
      · intro later there
        rw [ended] at there
        cases there
        exact unasked.complete now has
      · intro later there none
        rw [ended] at there
        cases there
        rw [none] at some
        cases some
  | aside _ rests same kept =>
      refine unasked.aside orderly (Session.standing_of_rotation same kept) (asks fun asking => ?_)
      rw [asking_of_rest rests] at asking
      cases asking

theorem Unasked.move {move : Move capacity} (unasked : station.Unasked)
    (allowed : completeTables station move = true) (moved : station.move? move = some after) :
    after.Unasked := by
  have orderly := unasked.orderly.move moved
  have aside (unstepped : ∀ id, move ≠ .step id)
      (same : after.session.map Session.standing = station.session.map Session.standing) :
      after.Unasked :=
    unasked.aside orderly same fun id => unasked.orderly.asking_unstepped moved (unstepped id)
  cases move with
  | step id => exact unasked.step moved
  | start =>
      refine aside nofun ?_
      cases moved
      exact Option.map_map _ _ _
  | stop =>
      refine aside nofun ?_
      cases moved
      exact Option.map_map _ _ _
  | readdress nodes =>
      refine aside nofun ?_
      have rotation := session_of_readdress moved unasked.complete
      refine Session.standing_of_rotation rotation ?_
      cases moved
      unfold readdress onSession
      dsimp only
      rw [Option.map_map]
      congr 1
      funext session
      rw [Function.comp]
      split <;> rfl
  | openSession table config estimator forwards =>
      have made := session_of_openSession moved
      cases opened : station.session with
      | some session =>
          rw [opened, Option.some_or, ← opened] at made
          exact aside nofun (congrArg _ made)
      | none =>
          rw [opened, Option.none_or] at made
          refine ⟨orderly, ?_, ?_, ?_⟩
          · intro session there
            rw [made] at there
            cases there
            exact of_decide_eq_true allowed
          · intro id asking
            obtain ⟨session, there, _⟩ :=
              unasked.asked id (unasked.orderly.asking_unstepped moved nofun asking)
            rw [opened] at there
            cases there
          · intro session there _
            rw [made] at there
            cases there
            rfl
  | _ => exact aside nofun (congrArg _ (session_of_move? moved rfl))

theorem Unasked.run {moves : List (Move capacity)} (unasked : station.Unasked)
    (ran : run? completeTables moves station = some after) : after.Unasked :=
  run?_keeps Unasked (fun _ _ _ unasked allowed moved => unasked.move allowed moved) unasked ran

theorem turn_of_unpaired {session : Session capacity} (opened : station.session = some session)
    (unpaired : session.nextRequest? = none) :
    station.turn id (.tick .begin) = .done station (.exchanged (.ok none)) := by
  simp only [turn, sessionTurn, opened, LinkedSession.tickStep, unpaired]
  rw [setLinked, ← opened]

theorem TickEnds.awaits {status : Status}
    (ends : station.TickEnds after id request point (.ok status)) : point.awaitsEnd = true := by
  obtain ⟨_, _, _, stepped⟩ := ends.shows
  have turns := Link.callerTurns_of_eq stepped
  cases awaits : point.awaitsEnd with
  | true => rfl
  | false =>
      cases begun : point.begun with
      | true =>
          obtain ⟨_, _, _, failed, _⟩ := turns.fails_start begun awaits
          cases failed
      | false =>
          obtain ⟨_, failed⟩ := turns.fails_before begun
          cases failed

/-- A tick without a pair shows no fault. Of any other tick the session shows the flag of
its result and what is stale, so that it shows what the tick has returned just if nothing is
stale, and no fault if the tick has succeeded. If no transaction begins and no call returns
between the end of a tick and the end of another, which has failed before its own transaction
began and has not waited for a buffer, then that one leaves the faults of the first, though
it has had none of its own. -/
theorem tick_shows_its_fault_iff {opened before : Station slots size capacity}
    {moves : List (Move capacity)} (fresh : opened.Fresh)
    (ran : run? completeTables moves opened = some before) :
    (∀ id session after, before.task? id = some (.tick .begin) →
      before.session = some session → session.nextRequest? = none →
      before.move? (.step id) = some after →
        after.finished = (id, before.now, .exchanged (.ok none)) :: before.finished ∧
        after.session = some session ∧ session.faults = .empty) ∧
    ∀ id request point result after, before.TickEnds after id request point result →
      ∃ session, after.session = some session ∧
        session.faults = (resultFlag result).insert (before.link.staleFaults point) ∧
        (session.faults = resultFlag result ↔ before.link.staleFaults point = .empty) ∧
        (∀ status, result = .ok status → session.faults = .empty) ∧
        ∀ resting next other call at_ failed last, run? callsRest resting after = some next →
          next.TickEnds last other call at_ failed → at_.begun = false → at_.awaitsEnd = false →
            resultFlag failed = .empty ∧
            ∃ kept, last.session = some kept ∧ kept.faults = session.faults := by
  have telling : before.Telling := (telling_of_fresh fresh).run ran
  refine ⟨?_, ?_⟩
  · intro id session after found there unpaired moved
    have stepped : before.step? id = some after := moved
    simp only [step?, found, turn_of_unpaired there unpaired] at stepped
    cases stepped
    refine ⟨rfl, there, ?_⟩
    exact ((unasked_of_fresh fresh).run ran).clear session there (Session.size_of_unpaired unpaired)
  · intro id request point result after ends
    obtain ⟨session, there, shows, stepped⟩ := ends.shows
    have turns := Link.callerTurns_of_eq stepped
    have admits := telling.orderly.admits_call (call?_of_asks? ends.asks)
    obtain ⟨faults, own⟩ := turns.faults admits telling.flagged
    rw [← shows] at faults own
    refine ⟨session, there, faults, own, ?_, ?_⟩
    · rintro status rfl
      refine own.mpr ?_
      rw [Link.staleFaults, if_pos ends.awaits]
    · intro resting next other call at_ failed last ran ends' unbegun unawaited
      have first : after.Resting after.link :=
        ⟨telling.orderly.move ends.moved, turns.over_of_done admits, rfl⟩
      have rested : next.Resting after.link :=
        run?_keeps (Resting after.link)
          (fun _ _ _ rested allowed moved => rested.move allowed moved) first ran
      obtain ⟨kept, held, shows', stepped'⟩ := ends'.shows
      obtain ⟨same, none⟩ := (Link.callerTurns_of_eq stepped').fails_early unbegun unawaited
      refine ⟨none, kept, held, ?_⟩
      rw [shows', same, rested.rests.status, shows]

def ticks (id : TaskId) (steps : Nat) : List (Move 3) :=
  .submit id (.tick .begin) :: List.replicate steps (.step id)

def timesOut : List (Move 3) :=
  startsRanging ++ ticks 1 13 ++ [.disturb (.pass 10000), .step 1]

def startsLateAfterTimeout : List (Move 3) :=
  timesOut ++ .disturb (.registers (RegisterFile.powerUp.raise Bits.halfPeriodWarning)) ::
    ticks 2 16

/-- A tick that begins its transaction leaves nothing of the timeout before it. -/
theorem late_tick_shows_its_own_fault :
    ∃ (opened before after : Station 2 127 3) (earlier session : Session 3),
      opened.Fresh ∧ run? completeTables startsLateAfterTimeout opened = some before ∧
      before.session = some earlier ∧ earlier.faults = .requestTimeout ∧
      before.move? (.step 2) = some after ∧
      (before.returns? 2).map Prod.snd = some (.error .transmitFault) ∧
      after.session = some session ∧ session.faults = .startError := by
  have evaluated : (do
      let opened : Station 2 127 3 ← open? Device.unused {} .ranging
      let before ← run? completeTables startsLateAfterTimeout opened
      let earlier ← before.session
      let after ← before.move? (.step 2)
      let call ← before.asks? 2
      return (earlier.faults, before.link.staleFaults call.2,
        decide (before.returns? 2 = some (.send call.1, .error .transmitFault)))) =
      some (.requestTimeout, .empty, true) := by
    cbv
  obtain ⟨opened, isOpen, evaluated⟩ := Option.bind_eq_some_iff.mp evaluated
  obtain ⟨before, ran, evaluated⟩ := Option.bind_eq_some_iff.mp evaluated
  obtain ⟨earlier, held, evaluated⟩ := Option.bind_eq_some_iff.mp evaluated
  obtain ⟨after, moved, evaluated⟩ := Option.bind_eq_some_iff.mp evaluated
  obtain ⟨⟨request, point⟩, asks, evaluated⟩ := Option.bind_eq_some_iff.mp evaluated
  have seen := Option.some.inj evaluated
  simp only [Prod.mk.injEq, decide_eq_true_eq] at seen
  obtain ⟨shown, unstale, returns⟩ := seen
  have fresh := fresh_of_open? isOpen
  obtain ⟨session, there, _, own, _⟩ :=
    (tick_shows_its_fault_iff fresh ran).2 2 request point _ after ⟨asks, returns, moved⟩
  exact ⟨opened, before, after, earlier, session, fresh, ran, held, shown, moved,
    by rw [returns]; rfl, there, own.mpr unstale⟩

def failsAfterTimeout : List (Move 3) :=
  timesOut ++ ticks 2 3 ++ [.disturb (.faults ⟨0, 1⟩), .step 2]

/-- A tick that fails before its transaction begins shows the timeout of the tick before it. -/
theorem failed_tick_shows_earlier_timeout :
    ∃ (opened station : Station 2 127 3) (session : Session 3),
      opened.Fresh ∧ run? ticksInOrder failsAfterTimeout opened = some station ∧
      station.finished = [(2, 10000, .exchanged (.error (.bus (.bus .transfer)))),
        (1, 10000, .exchanged (.error .requestTimeout))] ∧
      station.session = some session ∧ session.faults = .requestTimeout ∧
      resultFlag (.error (.bus (.bus .transfer))) = .empty := by
  have evaluated : (do
      let opened : Station 2 127 3 ← open? Device.unused {} .ranging
      let station ← run? ticksInOrder failsAfterTimeout opened
      let session ← station.session
      return (station.finished, session.faults)) =
      some ([(2, 10000, .exchanged (.error (.bus (.bus .transfer)))),
        (1, 10000, .exchanged (.error .requestTimeout))], .requestTimeout) := by
    cbv
  obtain ⟨opened, isOpen, evaluated⟩ := Option.bind_eq_some_iff.mp evaluated
  obtain ⟨station, ran, evaluated⟩ := Option.bind_eq_some_iff.mp evaluated
  obtain ⟨session, there, evaluated⟩ := Option.bind_eq_some_iff.mp evaluated
  have seen := Option.some.inj evaluated
  simp only [Prod.mk.injEq] at seen
  exact ⟨opened, station, session, fresh_of_open? isOpen, ran, seen.1, there, seen.2, rfl⟩

end Station

end UwbRadio
