import Mathlib
import UwbRadio.Proofs.Bus.Starts
import UwbRadio.Proofs.Link.LeftOver
import UwbRadio.Proofs.Station.Writes

/-!
No start over an unfinished transaction, as far as it goes. Once a caller has left a
transaction whose end has not been told, the next caller silences the radio before it
starts anything, unless the note of the unfinished transaction has been lost: the
silencing failed or was dropped, or the event side forgot (`Link.forgets`).
-/

namespace UwbRadio

namespace Written

def starts (write : Written) : Bool :=
  write.goesTo Register.systemControl &&
    write.value &&& (Bits.transmitStart ||| Bits.receiveEnable) != 0

def switchesOff (write : Written) : Bool :=
  write.goesTo Register.systemControl && write.value &&& Bits.transceiverOff != 0

def clears (write : Written) : Bool :=
  write.goesTo Register.systemStatus && write.value &&& Bits.engineEvents == Bits.engineEvents

end Written

theorem silencing_switchesOff :
    ∃ write, Access.written? (.write Register.systemControl Bits.transceiverOff) = some write ∧
      write.switchesOff = true ∧ write.starts = false :=
  ⟨_, Register.writing?_whole (by decide) rfl (by decide) _, by decide, by decide⟩

theorem silencing_clears :
    ∃ write, Access.written? (.write Register.systemStatus Bits.engineEvents) = some write ∧
      write.clears = true ∧ write.starts = false :=
  ⟨_, Register.writing?_whole (by decide) rfl (by decide) _, by decide, by decide⟩

theorem clearing_starts_nothing (pending : UInt64) :
    ∀ write ∈ Register.systemStatus.writing? pending, write.starts = false := by
  intro write written
  rw [Register.writing?_whole (by decide) rfl (by decide)] at written
  cases written
  rfl

/-- The writes switched the radio off and cleared the events of a transaction. -/
def Silenced (writes : List Written) : Prop :=
  (∃ write ∈ writes, write.switchesOff = true) ∧ ∃ write ∈ writes, write.clears = true

theorem Silenced.append {writes : List Written} (silenced : Silenced writes) (new : List Written) :
    Silenced (new ++ writes) := by
  obtain ⟨⟨off, offMember, switchesOff⟩, clear, clearMember, clears⟩ := silenced
  exact ⟨⟨off, List.mem_append_right new offMember, switchesOff⟩,
    clear, List.mem_append_right new clearMember, clears⟩

namespace Link

variable {slots size : Nat} {link after : Link slots size} {exchange : Exchange} {id : TaskId}
  {turn : CallerTurn slots size}

def clearAccess : Access :=
  .write Register.systemStatus Bits.engineEvents

theorem CallerTurns.gate_silences (turns : CallerTurns link id exchange .gate turn)
    (moves : turn ≠ .wait) (unfinished : link.phase.unfinished = true) :
    turn = .next (link.entered id) .silenceLock := by
  cases turns with
  | wait => exact absurd rfl moves
  | silence => rfl
  | enter free settled => rw [unfinished] at settled; cases settled

theorem CallerTurns.lock_silences (turns : CallerTurns link id exchange .silenceLock turn)
    (moves : turn ≠ .wait) :
    ∃ after, turn = .next after (.silencing silenceAccesses) ∧ after.bus = link.bus := by
  cases turns with
  | wait => exact absurd rfl moves
  | silenceLock => exact ⟨_, rfl, rfl⟩

theorem CallerTurns.switches_off
    (turns : CallerTurns link id exchange (.silencing silenceAccesses) turn)
    (moves : turn ≠ .wait) (succeeds : link.failsSilence (.silencing silenceAccesses) = false) :
    ∃ after write, turn = .next after (.silencing [clearAccess]) ∧
      after.bus.written = write :: link.bus.written ∧ write.switchesOff = true := by
  obtain ⟨write, writes, off, _⟩ := silencing_switchesOff
  cases turns with
  | wait => exact absurd rfl moves
  | silenceFailed performed => rw [failsSilence, performed] at succeeds; cases succeeds
  | silenced performed =>
      obtain ⟨_, remaining, remains, left⟩ := Access.advance_ok performed
      cases remains
      cases left
  | silencing performed =>
      obtain ⟨written, remaining, remains, left⟩ := Access.advance_ok performed
      cases remains
      subst left
      rw [writes] at written
      exact ⟨_, write, rfl, written, off⟩

theorem CallerTurns.clears
    (turns : CallerTurns link id exchange (.silencing [clearAccess]) turn)
    (moves : turn ≠ .wait) (succeeds : link.failsSilence (.silencing [clearAccess]) = false) :
    turn.Leaves fun after => ∃ write, after.bus.written = write :: link.bus.written ∧
      write.clears = true := by
  obtain ⟨write, writes, clears, _⟩ := silencing_clears
  cases turns with
  | wait => exact absurd rfl moves
  | silenceFailed performed => rw [failsSilence, performed] at succeeds; cases succeeds
  | silenced performed prepared =>
      have written := (Access.advance_ok performed).1
      rw [clearAccess, writes] at written
      exact prepared.bus_eq.mono fun after same =>
        ⟨write, (congrArg Bus.written same).trans written, clears⟩
  | silencing performed more =>
      obtain ⟨_, remaining, remains, left⟩ := Access.advance_ok performed
      cases remains
      exact absurd left more

theorem CallerTurns.fails_silence {point : CallerPoint}
    (turns : CallerTurns link id exchange point turn) (moves : turn ≠ .wait)
    (fails : link.failsSilence point = true) :
    ∃ after result, turn = .done after result ∧ after.phase = link.phase := by
  cases turns with
  | wait => exact absurd rfl moves
  | silenceFailed => exact ⟨_, _, rfl, rfl⟩
  | silenced performed => rw [failsSilence, performed] at fails; cases fails
  | silencing performed => rw [failsSilence, performed] at fails; cases fails
  | _ => cases fails

end Link

def Task.serves? : Task → Option InterruptPoint
  | .interrupt point => some point
  | _ => none

namespace Station

variable {slots size capacity : Nat} {earlier station after : Station slots size capacity}

def tellsEnd (station : Station slots size capacity) : Move capacity → Bool
  | .step id =>
      (station.task? id).any fun task => task.serves?.any fun point =>
        (station.link.feeds point).any fun event => station.link.phase.awaits?.any event.ends
  | _ => false

/-- With the move the note that a transaction is left is lost: the event side forgets
it, or the caller that silences the radio fails or is dropped. -/
def losesNote (station : Station slots size capacity) : Move capacity → Bool
  | .step id =>
      (station.task? id).any fun task =>
        task.serves?.any (fun point => station.link.forgets id point) ||
          task.call?.any fun call => station.link.failsSilence call.2
  | .cancel id =>
      (station.task? id).any fun task => task.call?.any fun call => call.2.silences
  | _ => false

def keepsNote : Rule slots size capacity :=
  fun station move => !station.tellsEnd move && !station.losesNote move

/-- How far a caller has silenced the radio, by what has been written. -/
def Stage (writes : List Written) (point : CallerPoint) : Prop :=
  point = .silenceLock ∨ point = .silencing silenceAccesses ∨
    (point = .silencing [Link.clearAccess] ∧ ∃ write ∈ writes, write.switchesOff = true)

/-- The radio is still to be silenced: the phase says so, or a caller is at it. -/
inductive Pending (station : Station slots size capacity) (writes : List Written) : Prop
  | noted (awaits : station.link.phase.awaits?.isSome = true) (waiting : station.CallersWait)
  | silencing {id task exchange point} (found : station.task? id = some task)
      (calls : task.call? = some (exchange, point)) (stage : Stage writes point)
      (waiting : ∀ other task, other ≠ id → station.task? other = some task → task.Outside)

theorem stage_past_gate {writes : List Written} {point : CallerPoint}
    (stage : Stage writes point) : point ≠ .gate ∧ point.begun = false := by
  rcases stage with rfl | rfl | ⟨rfl, _⟩
  · exact ⟨nofun, rfl⟩
  · exact ⟨nofun, rfl⟩
  · exact ⟨nofun, rfl⟩

theorem Stage.append {writes : List Written} {point : CallerPoint} (stage : Stage writes point)
    (new : List Written) : Stage (new ++ writes) point := by
  rcases stage with first | second | ⟨third, write, member, off⟩
  · exact .inl first
  · exact .inr (.inl second)
  · exact .inr (.inr ⟨third, write, List.mem_append_right new member, off⟩)

theorem Orderly.gate_closed {id other : TaskId} {task waiter : Task}
    {exchange transaction : Exchange} {point : CallerPoint} {turn : CallerTurn slots size}
    (orderly : station.Orderly) (found : station.task? id = some task)
    (calls : task.call? = some (exchange, point)) (past : point ≠ .gate)
    (waits : station.task? other = some waiter)
    (atGate : waiter.call? = some (transaction, .gate)) (apart : other ≠ id)
    (turns : Link.CallerTurns station.link other transaction .gate turn) : turn = .wait := by
  have held := (orderly.admits_task found calls).gate past
  by_cases moves : turn = .wait
  · exact moves
  · rcases turns.gate_before moves (orderly.admits_task waits atGate) with free | own
    · rw [free] at held
      cases held
    · rw [own] at held
      exact absurd (Option.some.inj held) apart

theorem pending_of_others {writes new : List Written} {id mover : TaskId}
    {first second : Option Task} {task : Task} {exchange : Exchange} {point : CallerPoint}
    (found : station.task? id = some task) (calls : task.call? = some (exchange, point))
    (stage : Stage writes point)
    (waiting : ∀ other task, other ≠ id → station.task? other = some task → task.Outside)
    (renames : station.Renames after mover first second) (apart : mover ≠ id)
    (outside : ∀ task ∈ second, task.Outside) : after.Pending (new ++ writes) := by
  have stays : after.task? id = some task := (renames.stay id apart.symm).trans found
  refine .silencing stays calls (stage.append new) ?_
  intro other waiter different there
  by_cases same : other = mover
  · subst same
    rw [renames.later] at there
    exact outside waiter there
  · rw [renames.stay other same] at there
    exact waiting other waiter different there

theorem step_noted {id : TaskId} {task : Task} {next : Option Task} {given : Option Slot}
    {writes : List Written} (awaits : station.link.phase.awaits?.isSome = true)
    (waiting : station.CallersWait)
    (effect : Effect station.link id task after.link next given)
    (renames : station.Renames after id (some task) next)
    (untold : station.tellsEnd (.step id) = false) (kept : station.losesNote (.step id) = false) :
    after.Pending writes := by
  obtain ⟨answered, awaits⟩ := Option.isSome_iff_exists.mp awaits
  have served (point : InterruptPoint) (serves : task = .interrupt point) :
      (station.link.interruptStep id point).Leaves station.link.StillLeft := by
    subst serves
    apply Link.InterruptTurns.stillLeft awaits
    · intro event member
      rw [tellsEnd, renames.before, awaits] at untold
      simpa using List.any_eq_false.mp untold event member
    · rw [losesNote, renames.before] at kept
      exact (Bool.or_eq_false_iff.mp kept).1
  have atGate (exchange : Exchange) (point : CallerPoint)
      (calls : task.call? = some (exchange, point)) : point = .gate :=
    waiting id task renames.before exchange point calls
  have unfinished := Link.unfinished_of_awaits awaits
  cases effect.part with
  | call calls stepped goesOn =>
      have same := atGate _ _ calls
      subst same
      have turns := Link.callerTurns_of_eq stepped
      have silences := turns.gate_silences nofun unfinished
      injection silences with _ later
      subst later
      refine .silencing renames.later goesOn (.inl rfl) ?_
      intro other waiter apart found
      rw [renames.stay other apart] at found
      exact waiting other waiter found
  | returned calls stepped rests =>
      have same := atGate _ _ calls
      subst same
      cases (Link.callerTurns_of_eq stepped).gate_silences nofun unfinished
  | @event point _ later stepped =>
      have left := served point rfl
      rw [stepped] at left
      refine .noted (by rw [left.awaits, awaits]; rfl) (waiting.renames renames ?_)
      rintro task ⟨⟩
      exact Task.outside_of_no_call rfl
  | @handled point _ result stepped =>
      have left := served point rfl
      rw [stepped] at left
      refine .noted (by rw [left.awaits, awaits]; rfl) (waiting.renames renames ?_)
      intro task absent
      cases absent
  | aside _ _ outside linkAfter =>
      exact .noted (by rw [linkAfter, awaits]; rfl) (waiting.renames renames outside)

theorem next_outside {mover id : TaskId} {moving task : Task} {next : Option Task}
    {given : Option Slot} {exchange : Exchange} {point : CallerPoint}
    (orderly : station.Orderly) (found : station.task? id = some task)
    (calls : task.call? = some (exchange, point)) (past : point ≠ .gate)
    (waiting : ∀ other task, other ≠ id → station.task? other = some task → task.Outside)
    (before : station.task? mover = some moving) (apart : mover ≠ id)
    (effect : Effect station.link mover moving after.link next given) :
    ∀ task ∈ next, task.Outside := by
  cases asks : moving.call? with
  | none => exact effect.next_outside asks
  | some call =>
      obtain ⟨transaction, at_⟩ := call
      have atGate := waiting mover moving apart before transaction at_ asks
      subst atGate
      rcases effect.of_call asks with ⟨_, later, _, _, turns⟩ | ⟨result, _, turns⟩
      · cases orderly.gate_closed found calls past before asks apart turns
      · cases orderly.gate_closed found calls past before asks apart turns

theorem step_silencing {id : TaskId} {task : Task} {next : Option Task}
    {given : Option Slot} {exchange : Exchange} {point : CallerPoint} {writes : List Written}
    (since : WrittenSince earlier station writes)
    (calls : task.call? = some (exchange, point)) (stage : Stage writes point)
    (waiting : ∀ other task, other ≠ id → station.task? other = some task → task.Outside)
    (effect : Effect station.link id task after.link next given)
    (renames : station.Renames after id (some task) next)
    (kept : station.losesNote (.step id) = false) :
    ∃ new, WrittenSince earlier after (new ++ writes) ∧
      (after.Pending (new ++ writes) ∨ Silenced (new ++ writes)) := by
  have succeeds : station.link.failsSilence point = false := by
    rw [losesNote, renames.before, Option.any_some, calls] at kept
    exact (Bool.or_eq_false_iff.mp kept).2
  have others (other : TaskId) (waiter : Task) (apart : other ≠ id)
      (there : after.task? other = some waiter) : waiter.Outside := by
    rw [renames.stay other apart] at there
    exact waiting other waiter apart there
  have silent (off : ∃ write ∈ writes, write.switchesOff = true)
      (cleared : ∃ write, after.link.bus.written = write :: station.link.bus.written ∧
        write.clears = true) :
      ∃ new, WrittenSince earlier after (new ++ writes) ∧
        (after.Pending (new ++ writes) ∨ Silenced (new ++ writes)) := by
    obtain ⟨clear, written, clears⟩ := cleared
    obtain ⟨switch, member, switchesOff⟩ := off
    refine ⟨[clear], ?_, .inr ⟨⟨switch, List.mem_cons_of_mem clear member, switchesOff⟩,
      clear, List.mem_cons_self, clears⟩⟩
    rw [WrittenSince, written, since]
    rfl
  rcases effect.of_call calls with ⟨other, later, rfl, goesOn, turns⟩ | ⟨result, rests, turns⟩
  · rcases stage with rfl | rfl | ⟨rfl, off⟩
    · obtain ⟨middle, same, busAfter⟩ := turns.lock_silences Turn.next_ne_wait
      injection same with linkAfter later
      subst later linkAfter
      refine ⟨[], ?_, .inl (.silencing renames.later goesOn (.inr (.inl rfl)) others)⟩
      exact (congrArg Bus.written busAfter).trans since
    · obtain ⟨middle, write, same, written, off⟩ := turns.switches_off Turn.next_ne_wait succeeds
      injection same with linkAfter later
      subst later linkAfter
      have stage : Stage ([write] ++ writes) (.silencing [Link.clearAccess]) :=
        .inr (.inr ⟨rfl, write, List.mem_cons_self, off⟩)
      refine ⟨[write], ?_, .inl (.silencing renames.later goesOn stage others)⟩
      rw [WrittenSince, written, since]
      rfl
    · exact silent off (turns.clears Turn.next_ne_wait succeeds)
  · rcases stage with rfl | rfl | ⟨rfl, off⟩
    · obtain ⟨middle, same, _⟩ := turns.lock_silences Turn.done_ne_wait
      cases same
    · obtain ⟨middle, write, same, _, _⟩ := turns.switches_off Turn.done_ne_wait succeeds
      cases same
    · exact silent off (turns.clears Turn.done_ne_wait succeeds)

/-- The radio stays to be silenced, or has been, as long as the note is kept. -/
theorem Pending.move {move : Move capacity} {writes : List Written} (orderly : station.Orderly)
    (since : WrittenSince earlier station writes) (pending : station.Pending writes)
    (kept : keepsNote station move = true) (moved : station.move? move = some after) :
    ∃ new, WrittenSince earlier after (new ++ writes) ∧
      (after.Pending (new ++ writes) ∨ Silenced (new ++ writes)) := by
  obtain ⟨new, later⟩ := since.move orderly moved
  have both := Bool.and_eq_true_iff.mp kept
  have untold : station.tellsEnd move = false := by simpa using both.1
  have unlost : station.losesNote move = false := by simpa using both.2
  cases pending with
  | noted awaits waiting =>
      refine ⟨new, later, .inl ?_⟩
      cases orderly.happens moved with
      | step effect renames => exact step_noted awaits waiting effect renames untold unlost
      | cancel linkAfter renames =>
          refine .noted (by rw [linkAfter]; exact awaits) (waiting.renames renames ?_)
          intro task absent
          cases absent
      | call names outside quiet linkAfter renames =>
          refine .noted (by rw [linkAfter]; exact awaits) (waiting.renames renames ?_)
          rintro task ⟨⟩
          exact outside
      | action noTask acted same =>
          obtain ⟨bus, pool, queue, linkAfter⟩ := acted.frame
          refine .noted (by rw [linkAfter]; exact awaits) ?_
          intro id task found
          rw [same] at found
          exact waiting id task found
  | @silencing id task exchange point found calls stage waiting =>
      have past := (stage_past_gate stage).1
      cases orderly.happens moved with
      | @step mover moving next given effect renames =>
          by_cases same : mover = id
          · subst same
            have own := renames.before
            rw [found] at own
            cases own
            exact step_silencing since calls stage waiting effect renames unlost
          · refine ⟨new, later, .inl ?_⟩
            exact pending_of_others found calls stage waiting renames same
              (next_outside orderly found calls past waiting renames.before same effect)
      | @cancel mover moving linkAfter renames =>
          have apart : mover ≠ id := by
            intro same
            subst same
            rw [losesNote, found, Option.any_some, calls] at unlost
            rcases stage with rfl | rfl | ⟨rfl, _⟩
            · cases unlost
            · cases unlost
            · cases unlost
          refine ⟨new, later, .inl ?_⟩
          refine pending_of_others found calls stage waiting renames apart ?_
          intro task absent
          cases absent
      | @call move mover started names outside quiet linkAfter renames =>
          have apart : mover ≠ id := by
            intro same
            subst same
            have free := renames.before
            rw [found] at free
            cases free
          refine ⟨new, later, .inl ?_⟩
          refine pending_of_others found calls stage waiting renames apart ?_
          rintro task ⟨⟩
          exact outside
      | action noTask acted same =>
          refine ⟨new, later, .inl (.silencing ((same id).trans found) calls (stage.append new) ?_)⟩
          intro other waiter apart there
          rw [same] at there
          exact waiting other waiter apart there

theorem Pending.silencer {writes : List Written} {id : TaskId} {task : Task}
    {exchange : Exchange} {point : CallerPoint} (pending : station.Pending writes)
    (found : station.task? id = some task) (calls : task.call? = some (exchange, point))
    (past : point ≠ .gate) :
    Stage writes point ∧
      ∀ other waiter, other ≠ id → station.task? other = some waiter → waiter.Outside := by
  cases pending with
  | noted awaits waiting => exact absurd (waiting id task found exchange point calls) past
  | @silencing silencer own transaction at_ there asks stage waiting =>
      by_cases same : id = silencer
      · subst same
        rw [there] at found
        cases found
        rw [asks] at calls
        cases calls
        exact ⟨stage, waiting⟩
      · exact absurd (waiting id task same found exchange point calls) past

/-! ### Starts -/

theorem Stage.starts_nothing {writes : List Written} {point : CallerPoint}
    (stage : Stage writes point) : ∀ write ∈ point.writing?, write.starts = false := by
  intro write writing
  rcases stage with rfl | rfl | ⟨rfl, _⟩
  · cases writing
  · obtain ⟨first, is, _, startsNot⟩ := silencing_switchesOff
    have same : some first = some write := is.symm.trans writing
    cases same
    exact startsNot
  · obtain ⟨first, is, _, startsNot⟩ := silencing_clears
    have same : some first = some write := is.symm.trans writing
    cases same
    exact startsNot

theorem Pending.starts_nothing {writes : List Written} {id : TaskId} {task : Task}
    (pending : station.Pending writes) (found : station.task? id = some task) :
    ∀ write ∈ task.writing?, write.starts = false := by
  cases calls : task.call? with
  | some call =>
      obtain ⟨exchange, point⟩ := call
      rw [Task.writing?_of_call? calls]
      by_cases past : point = .gate
      · subst past
        intro write writing
        cases writing
      · exact (pending.silencer found calls past).1.starts_nothing
  | none =>
      intro write writes
      cases task with
      | interrupt point =>
          cases point with
          | clearStatus pending => exact clearing_starts_nothing pending write writes
          | _ => cases writes
      | _ =>
          rw [Task.writing?_of_neither calls rfl] at writes
          cases writes

/-- Nothing says any more that the radio is to be silenced, and whoever takes the gate
next starts at once. -/
structure Forgotten (station : Station slots size capacity) : Prop where
  finished : station.link.phase.unfinished = false
  waiting : station.CallersWait

theorem Pending.waiting_of_abandoned {writes : List Written} (orderly : station.Orderly)
    (pending : station.Pending writes) (abandoned : station.link.phase = .abandoned none) :
    station.CallersWait := by
  cases pending with
  | noted awaits waiting => exact waiting
  | silencing found calls stage waiting =>
      obtain ⟨past, before⟩ := stage_past_gate stage
      have idle := (orderly.admits_task found calls).idle past before
      rw [abandoned] at idle
      cases idle

theorem Pending.forgotten {id : TaskId} {point : InterruptPoint} {next : Option Task}
    {given : Option Slot} {writes : List Written} (orderly : station.Orderly)
    (pending : station.Pending writes)
    (effect : Effect station.link id (.interrupt point) after.link next given)
    (renames : station.Renames after id (some (.interrupt point)) next)
    (forgets : station.link.forgets id point = true) : after.Forgotten := by
  have abandoned : station.link.phase = .abandoned none := by
    rw [Link.forgets, Bool.and_eq_true] at forgets
    exact of_decide_eq_true forgets.1
  have waiting := pending.waiting_of_abandoned orderly abandoned
  have outside := effect.next_outside rfl
  have idles := Link.InterruptTurns.forgotten forgets
  have idle : after.link.phase = .idle := by
    cases effect.part with
    | call calls => cases calls
    | returned calls => cases calls
    | event stepped => rw [stepped] at idles; exact idles
    | handled stepped => rw [stepped] at idles; exact idles
    | aside noCall noEvent => cases noEvent
  exact ⟨by rw [idle]; rfl, waiting.renames renames outside⟩

theorem Pending.lost {move : Move capacity} {writes : List Written} (orderly : station.Orderly)
    (pending : station.Pending writes) (lost : station.losesNote move = true)
    (moved : station.move? move = some after) : after.Forgotten := by
  cases orderly.happens moved with
  | @step id task next given effect renames =>
      rw [losesNote, renames.before, Option.any_some, Bool.or_eq_true] at lost
      rcases lost with serving | failing
      · obtain ⟨point, serves, forgets⟩ := (Option.any_eq_true _ _).mp serving
        cases task with
        | interrupt there =>
            cases serves
            exact pending.forgotten orderly effect renames forgets
        | _ => cases serves
      · obtain ⟨⟨exchange, point⟩, calls, fails⟩ := (Option.any_eq_true _ _).mp failing
        have past : point ≠ .gate := by
          intro atGate
          subst atGate
          cases fails
        obtain ⟨stage, waiting⟩ := pending.silencer renames.before calls past
        have idle := (orderly.admits_task renames.before calls).idle past (stage_past_gate stage).2
        rcases effect.of_call calls with ⟨_, _, _, _, turns⟩ | ⟨result, rests, turns⟩
        · obtain ⟨_, _, same, _⟩ := turns.fails_silence nofun fails
          cases same
        · obtain ⟨_, _, same, phase⟩ := turns.fails_silence nofun fails
          injection same with linkAfter _
          subst linkAfter
          refine ⟨by rw [phase, idle]; rfl, ?_⟩
          exact renames.task
            (fun task member => Task.outside_of_no_call (rests task member)) waiting
  | @cancel id task linkAfter renames =>
      rw [losesNote, renames.before, Option.any_some] at lost
      obtain ⟨⟨exchange, point⟩, calls, silences⟩ := (Option.any_eq_true _ _).mp lost
      have past : point ≠ .gate := by
        intro atGate
        subst atGate
        cases silences
      obtain ⟨stage, waiting⟩ := pending.silencer renames.before calls past
      have idle := (orderly.admits_task renames.before calls).idle past (stage_past_gate stage).2
      have phase : after.link.phase = station.link.phase := by rw [linkAfter]; rfl
      refine ⟨by rw [phase, idle]; rfl, ?_⟩
      exact renames.task (by intro task absent; cases absent) waiting
  | @call move id task names =>
      cases move with
      | submit => cases lost
      | process => cases lost
      | _ => cases names
  | @action move noTask =>
      cases move with
      | step => cases noTask
      | cancel => cases noTask
      | _ => cases lost

/-- With the move a caller leaves a transaction that has begun and whose end has not
been told: it gives up, it is dropped, or it could not start the hardware. -/
structure LeavesUnfinished (station after : Station slots size capacity) (caller : TaskId) :
    Prop where
  begun : station.begun caller = true
  awaited : station.link.phase.awaits?.isSome = true
  gone : after.begun caller = false
  awaits : after.link.phase.awaits?.isSome = true

theorem LeavesUnfinished.pending {caller : TaskId} {move : Move capacity}
    (leaves : station.LeavesUnfinished after caller) (orderly : station.Orderly)
    (moved : station.move? move = some after) : after.Pending [] := by
  obtain ⟨task, exchange, point, found, calls, begun⟩ := call_of_begun leaves.begun
  have past : point ≠ .gate := by
    intro atGate
    subst atGate
    cases begun
  have held := (orderly.admits_task found calls).gate past
  have waiting (other : TaskId) (waiter : Task) (apart : other ≠ caller)
      (there : station.task? other = some waiter) : waiter.Outside := by
    intro transaction at_ asks
    exact at_gate_of_holder (.inr held) apart (orderly.admits_task there asks)
  have still (same : after.task? caller = station.task? caller) : False := by
    have gone := leaves.gone
    rw [begun_congr same, leaves.begun] at gone
    cases gone
  have left {first second : Option Task} (renames : station.Renames after caller first second)
      (outside : ∀ task ∈ second, task.Outside) : after.Pending [] :=
    .noted leaves.awaits (renames.task outside waiting)
  cases orderly.happens moved with
  | @step id moving next given effect renames =>
      by_cases same : caller = id
      · subst same
        have own := renames.before
        rw [found] at own
        cases own
        rcases effect.of_call calls with ⟨other, later, rfl, goesOn, turns⟩ | ⟨result, rests, _⟩
        · have gone := leaves.gone
          rw [Station.begun, renames.later, Option.any_some, goesOn, Option.any_some,
            turns.begun_stays begun] at gone
          cases gone
        · exact left renames fun task member => Task.outside_of_no_call (rests task member)
      · exact (still (renames.stay caller same)).elim
  | @cancel id moving linkAfter renames =>
      by_cases same : caller = id
      · subst same
        exact left renames (by intro task absent; cases absent)
      · exact (still (renames.stay caller same)).elim
  | @call move id started names outside quiet linkAfter renames =>
      have apart : caller ≠ id := by
        intro same
        subst same
        have free := renames.before
        rw [found] at free
        cases free
      exact (still (renames.stay caller apart)).elim
  | action noTask acted same => exact (still (same caller)).elim

/-- After a caller has left a transaction unfinished, nothing is started before its end
has been told or the radio has been switched off and its events cleared, as long as
the note of it is not lost. If it is lost before, nothing is left of it, and the next
caller starts at once. -/
theorem start_after_unfinished_needs_silence {opened station left before after :
      Station slots size capacity} {earlier meanwhile : List (Move capacity)}
    {move last : Move capacity} {caller : TaskId} (fresh : opened.Fresh)
    (reached : run? (fun _ _ => true) earlier opened = some station)
    (leaving : station.move? move = some left)
    (leaves : station.LeavesUnfinished left caller)
    (ran : run? keepsNote meanwhile left = some before)
    (moved : before.move? last = some after) :
    ∃ writes, WrittenSince left before writes ∧
      ((∃ write, after.link.bus.written = write :: before.link.bus.written ∧
        write.starts = true) → Silenced writes) ∧
      (before.losesNote last = true → Silenced writes ∨ after.Forgotten) := by
  have orderly : station.Orderly :=
    run?_keeps Orderly (fun _ _ _ orderly _ moved => orderly.move moved)
      (orderly_of_fresh fresh) reached
  have kept : before.Orderly ∧ ∃ writes, WrittenSince left before writes ∧
      (before.Pending writes ∨ Silenced writes) := by
    refine run?_keeps (fun station => station.Orderly ∧ ∃ writes,
      WrittenSince left station writes ∧ (station.Pending writes ∨ Silenced writes))
      ?_ ⟨orderly.move leaving, [], rfl, .inl (leaves.pending orderly leaving)⟩ ran
    rintro station move next ⟨orderly, writes, since, pending | silenced⟩ allowed moved
    · obtain ⟨new, later, holds⟩ := pending.move orderly since allowed moved
      exact ⟨orderly.move moved, new ++ writes, later, holds⟩
    · obtain ⟨new, later⟩ := since.move orderly moved
      exact ⟨orderly.move moved, new ++ writes, later, .inr (silenced.append new)⟩
  obtain ⟨orderly, writes, since, pending | silenced⟩ := kept
  · refine ⟨writes, since, ?_, fun lost => .inr (pending.lost orderly lost moved)⟩
    rintro ⟨write, written, starts⟩
    rcases orderly.writes moved with same | ⟨id, task, _, found, wrote⟩
    · rw [same] at written
      exact absurd (congrArg List.length written) (by simp)
    · rw [wrote] at written
      have own : task.writing? = some write := by
        cases kind : task.writing? with
        | none =>
            rw [kind] at written
            exact absurd (congrArg List.length written) (by simp)
        | some other =>
            rw [kind] at written
            exact congrArg some (List.cons.inj written).1
      rw [pending.starts_nothing found write own] at starts
      cases starts
  · exact ⟨writes, since, fun _ => silenced, fun _ => .inl silenced⟩

def sendsInVain : List (Move capacity) :=
  [.submit 1 (.send ((Request.ofPayload [0x68, 0x69]).withMode (.timeout 10))), .step 1, .step 1,
    .step 1, .step 1, .step 1, .step 1, .step 1, .step 1, .disturb (.pass 10)]

def sendsAnother : List (Move capacity) :=
  [.submit 2 (.send (Request.ofPayload [0x68, 0x69])), .step 2, .step 2, .step 2, .step 2,
    .step 2, .step 2, .step 2, .step 2]

def sendsAfterFault : List (Move capacity) :=
  [.disturb (.faults ⟨0, 1⟩), .submit 2 (.send (Request.ofPayload [0x68, 0x69])), .step 2,
    .step 2, .step 2, .submit 3 (.send (Request.ofPayload [0x68, 0x69])), .step 3, .step 3,
    .step 3, .step 3, .step 3]

/-- The second sender silences the radio before it starts the transmitter. -/
theorem second_start_is_silenced :
    ∃ opened station left before after : Station 2 127 0,
      opened.Fresh ∧ run? (fun _ _ => true) sendsInVain opened = some station ∧
      station.move? (.step 1) = some left ∧ station.LeavesUnfinished left 1 ∧
      run? keepsNote sendsAnother left = some before ∧ before.move? (.step 2) = some after ∧
      (∃ write, after.link.bus.written = write :: before.link.bus.written ∧
        write.starts = true) ∧
      ∃ writes, WrittenSince left before writes ∧ Silenced writes := by
  have evaluated : (do
      let opened : Station 2 127 0 ← open? Device.unused {} .transfer
      let station ← run? (fun _ _ => true) sendsInVain opened
      let left ← station.move? (.step 1)
      let before ← run? keepsNote sendsAnother left
      let after ← before.move? (.step 2)
      return (station.begun 1, station.link.phase.awaits?.isSome, left.begun 1,
        left.link.phase.awaits?.isSome, after.link.bus.written.head?.any Written.starts,
        decide (after.link.bus.written.tail = before.link.bus.written))) =
      some (true, true, false, true, true, true) := by
    cbv
  obtain ⟨opened, isOpen, evaluated⟩ := Option.bind_eq_some_iff.mp evaluated
  obtain ⟨station, reached, evaluated⟩ := Option.bind_eq_some_iff.mp evaluated
  obtain ⟨left, leaving, evaluated⟩ := Option.bind_eq_some_iff.mp evaluated
  obtain ⟨before, ran, evaluated⟩ := Option.bind_eq_some_iff.mp evaluated
  obtain ⟨after, moved, evaluated⟩ := Option.bind_eq_some_iff.mp evaluated
  have seen := Option.some.inj evaluated
  simp only [Prod.mk.injEq, decide_eq_true_eq] at seen
  obtain ⟨begun, awaited, gone, awaits, starts, rest⟩ := seen
  have fresh := fresh_of_open? isOpen
  have leaves : station.LeavesUnfinished left 1 := ⟨begun, awaited, gone, awaits⟩
  have start := exists_cons_of_tail starts rest
  obtain ⟨writes, since, silenced, _⟩ :=
    start_after_unfinished_needs_silence fresh reached leaving leaves ran moved
  exact ⟨opened, station, left, before, after, fresh, reached, leaving, leaves, ran, moved,
    start, writes, since, silenced start⟩

/-- The third sender starts the transmitter though the first frame's end has not been
told and the radio has not been switched off since. -/
theorem start_over_unfinished_transaction :
    ∃ opened station left before after : Station 2 127 0,
      opened.Fresh ∧ run? (fun _ _ => true) sendsInVain opened = some station ∧
      station.move? (.step 1) = some left ∧ station.LeavesUnfinished left 1 ∧
      run? (fun station move => !station.tellsEnd move) sendsAfterFault left = some before ∧
      before.move? (.step 3) = some after ∧
      (∃ write, after.link.bus.written = write :: before.link.bus.written ∧
        write.starts = true) ∧
      ∀ writes, WrittenSince left before writes → ¬ Silenced writes := by
  have evaluated : (do
      let opened : Station 2 127 0 ← open? Device.unused {} .transfer
      let station ← run? (fun _ _ => true) sendsInVain opened
      let left ← station.move? (.step 1)
      let before ← run? (fun station move => !station.tellsEnd move) sendsAfterFault left
      let after ← before.move? (.step 3)
      return (station.begun 1, station.link.phase.awaits?.isSome, left.begun 1,
        left.link.phase.awaits?.isSome, after.link.bus.written.head?.any Written.starts,
        decide (after.link.bus.written.tail = before.link.bus.written),
        (left.wrote before).any Written.switchesOff)) =
      some (true, true, false, true, true, true, false) := by
    cbv
  obtain ⟨opened, isOpen, evaluated⟩ := Option.bind_eq_some_iff.mp evaluated
  obtain ⟨station, reached, evaluated⟩ := Option.bind_eq_some_iff.mp evaluated
  obtain ⟨left, leaving, evaluated⟩ := Option.bind_eq_some_iff.mp evaluated
  obtain ⟨before, ran, evaluated⟩ := Option.bind_eq_some_iff.mp evaluated
  obtain ⟨after, moved, evaluated⟩ := Option.bind_eq_some_iff.mp evaluated
  have seen := Option.some.inj evaluated
  simp only [Prod.mk.injEq, decide_eq_true_eq] at seen
  obtain ⟨begun, awaited, gone, awaits, starts, rest, on⟩ := seen
  refine ⟨opened, station, left, before, after, fresh_of_open? isOpen, reached, leaving,
    ⟨begun, awaited, gone, awaits⟩, ran, moved, exists_cons_of_tail starts rest, ?_⟩
  rintro writes since ⟨⟨write, member, off⟩, _⟩
  rw [wrote_eq since] at on
  have missing := List.any_eq_false.mp on write member
  exact missing off

end Station

end UwbRadio
