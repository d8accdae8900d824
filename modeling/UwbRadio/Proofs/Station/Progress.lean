import UwbRadio.Proofs.Station.Handover
import UwbRadio.Proofs.Station.Poll

/-!
No history wedges a station. Whatever calls, events, faults and dropped calls came
before, once no call and no event is under way the next blocking send gets the gate,
is started and waits. When the event side learns that its frame has been sent, and that
the answer has been received if one is waited for, the send succeeds, and the handler
has the payload of the answer.

The send is followed from one of these points to the next. Between them the station goes
on as it likes: while the send is left alone, its hold on the gate keeps all other callers
from the transaction.
-/

namespace UwbRadio

namespace Station

variable {slots size capacity : Nat} {station after : Station slots size capacity} {id : TaskId}
  {request : Request} {phase : Phase} {woken : Bool}

def call (station : Station slots size capacity) (id : TaskId) (task : Task) :
    Station slots size capacity :=
  poll id pollBudget (station.submit id task)

/-- The event side learns of these events and serves them. -/
def Reported (station : Station slots size capacity) (events : List Event)
    (after : Station slots size capacity) : Prop :=
  ∃ id point, station.knows id = false ∧ Link.Arrives station.link.bus point events ∧
    after = station.call id (.interrupt point)

def sparing (id : TaskId) : Rule slots size capacity
  | _, .step other => other != id
  | _, .cancel other => other != id
  | _, _ => true

def bystanding (id : TaskId) : Rule slots size capacity
  | station, .step other =>
      other != id && (station.task? other).all fun task => !task.servesEvents
  | _, .cancel other => other != id
  | _, _ => true

/-- Whatever else happens while the task `id` is left alone. -/
def Aside (id : TaskId) (station after : Station slots size capacity) : Prop :=
  ∃ moves, run? (sparing id) moves station = some after

/-- Whatever else happens while the task `id` is left alone and no event is served. -/
def Meanwhile (id : TaskId) (station after : Station slots size capacity) : Prop :=
  ∃ moves, run? (bystanding id) moves station = some after

/-- The send has the gate, its transaction is shown as sending, and it waits for the
event side alone. -/
structure Sending (station : Station slots size capacity) (id : TaskId) (request : Request) :
    Prop where
  gate : station.link.gate = Lock.heldBy id
  state : station.link.state = .sending
  waits : station.task? id = some (.exchange (.send request) (.waiting .never))

/-- The task returns when it is polled, and leaves the gate free. -/
def Returns (station : Station slots size capacity) (id : TaskId)
    (holds : Except (Error BusFault) (Option Status) → Prop) : Prop :=
  ∃ result, holds result ∧
    (poll id pollBudget station).finished =
      (id, (poll id pollBudget station).now, .exchanged result) :: station.finished ∧
    (poll id pollBudget station).link.gate = Lock.free

theorem sparing_of_bystanding {move : Move capacity}
    (allowed : bystanding id station move = true) : sparing id station move = true := by
  cases move with
  | step other => exact (Bool.and_eq_true_iff.mp allowed).1
  | cancel other => exact allowed
  | _ => rfl

/-- The transaction is as it was, and tasks of the event side have begun at most. -/
structure Beside (station after : Station slots size capacity) : Prop where
  phase : after.link.phase = station.link.phase
  completion : after.link.completion = station.link.completion
  begins : ∀ name point, after.task? name = some (.interrupt point) →
    station.task? name = some (.interrupt point) ∨ (Task.interrupt point).starts = true

/-- While a task that has the gate is left alone, the transaction is touched by the event
side alone. -/
theorem Orderly.spares {task : Task} {move : Move capacity} (orderly : station.Orderly)
    (gate : station.link.gate.holder = some id) (caller : station.task? id = some task)
    (allowed : sparing id station move = true) (moved : station.move? move = some after) :
    after.task? id = some task ∧
      (station.Beside after ∨ ∃ other point turn, move = .step other ∧
        station.task? other = some (.interrupt point) ∧
        Link.InterruptTurns station.link other point turn ∧
        turn.after? = some after.link) := by
  have beside {name : TaskId} {first second : Option Task}
      (renames : station.Renames after name first second)
      (new : ∀ point, second = some (.interrupt point) → (Task.interrupt point).starts = true)
      (same : after.link.phase = station.link.phase ∧
        after.link.completion = station.link.completion) : station.Beside after := by
    refine ⟨same.1, same.2, ?_⟩
    intro other point found
    by_cases mine : other = name
    · subst mine
      exact .inr (new point (renames.later.symm.trans found))
    · exact .inl ((renames.stay other mine).symm.trans found)
  cases orderly.happens moved with
  | @step name task next given effect renames =>
      have apart : name ≠ id := bne_iff_ne.mp allowed
      refine ⟨(renames.stay id apart.symm).trans caller, ?_⟩
      have blocked {exchange : Exchange} {point : CallerPoint} {turn : CallerTurn slots size}
          (calls : task.call? = some (exchange, point))
          (turns : Link.CallerTurns station.link name exchange point turn) (moves : turn ≠ .wait) :
          False := by
        rcases turns.gate_before moves (orderly.admits_task renames.before calls) with none | other
        · rw [gate] at none
          cases none
        · rw [gate] at other
          exact apart (Option.some.inj other).symm
      cases effect.part with
      | call calls stepped =>
          exact (blocked calls (Link.callerTurns_of_eq stepped) Turn.next_ne_wait).elim
      | returned calls stepped =>
          exact (blocked calls (Link.callerTurns_of_eq stepped) Turn.done_ne_wait).elim
      | event stepped =>
          exact .inr ⟨name, _, _, rfl, renames.before, Link.interruptTurns_of_eq stepped, rfl⟩
      | handled stepped =>
          exact .inr ⟨name, _, _, rfl, renames.before, Link.interruptTurns_of_eq stepped, rfl⟩
      | aside noCall noEvent outside linkAfter =>
          refine .inl (beside renames ?_ (by rw [linkAfter]; exact ⟨rfl, rfl⟩))
          intro point becomes
          exact (effect.next_idle noEvent point becomes).elim
  | cancel linkAfter renames =>
      have apart : id ≠ _ := (bne_iff_ne.mp allowed).symm
      exact ⟨(renames.stay id apart).trans caller,
        .inl (beside renames nofun (by rw [linkAfter]; exact ⟨rfl, rfl⟩))⟩
  | @call _ name task names outside quiet linkAfter renames =>
      have apart : id ≠ name := by
        rintro rfl
        cases renames.before.symm.trans caller
      refine ⟨(renames.stay id apart).trans caller,
        .inl (beside renames ?_ (by rw [linkAfter]; exact ⟨rfl, rfl⟩))⟩
      rintro point ⟨⟩
      rcases named_task moved names renames.before renames.later with ⟨_, starts⟩ | ⟨_, _, taken⟩
      · exact starts
      · cases taken
  | action noTask acted same =>
      obtain ⟨bus, pool, queue, linkAfter⟩ := acted.frame
      refine ⟨(same id).trans caller, .inl ⟨by rw [linkAfter], by rw [linkAfter], ?_⟩⟩
      intro other point found
      exact .inl ((same other).symm.trans found)

/-! ### A send that waits -/

/-- A send waits for the event side, which serves nothing. -/
structure Awaits (station : Station slots size capacity) (id : TaskId) (request : Request)
    (phase : Phase) (woken : Bool) : Prop where
  sound : station.Sound
  caller : station.task? id = some (.exchange (.send request) (.waiting .never))
  rests : ∀ other point, station.task? other = some (.interrupt point) →
    (Task.interrupt point).starts = true
  phase : station.link.phase = phase
  completion : station.link.completion = woken

theorem Awaits.gate (awaits : station.Awaits id request phase woken) :
    station.link.gate.holder = some id :=
  (awaits.sound.orderly.admits_task awaits.caller rfl).gate nofun

theorem Awaits.free (awaits : station.Awaits id request phase woken) (guard : Guard)
    (other : guard ≠ .gate) : guard.lock station.link = Lock.free := by
  apply Lock.eq_free
  intro owner holds
  obtain ⟨task, found, needs⟩ := awaits.sound.guarded guard owner holds
  have needless : guard.needs task = false := by
    cases calls : task.call? with
    | some call =>
        obtain ⟨exchange, point⟩ := call
        have admits := awaits.sound.orderly.admits_task found calls
        rw [guard.needs_of_call calls]
        by_cases same : owner = id
        · subst same
          rw [awaits.caller] at found
          cases found
          cases calls
          cases guard with
          | gate => exact absurd rfl other
          | _ => rfl
        · rw [at_gate_of_holder (.inr awaits.gate) same admits]
          cases guard <;> rfl
    | none =>
        cases task with
        | interrupt point =>
            have starts := awaits.rests owner point found
            cases point with
            | event => cases guard <;> rfl
            | statusLock => cases guard <;> rfl
            | _ => cases starts
        | _ => exact guard.needs_of_rest calls rfl
  rw [needless] at needs
  cases needs

theorem Awaits.move {move : Move capacity} (awaits : station.Awaits id request phase woken)
    (allowed : bystanding id station move = true) (moved : station.move? move = some after) :
    after.Awaits id request phase woken := by
  obtain ⟨kept, beside | ⟨other, point, turn, rfl, found, _⟩⟩ :=
    awaits.sound.orderly.spares awaits.gate awaits.caller (sparing_of_bystanding allowed) moved
  · refine ⟨awaits.sound.move moved, kept, ?_, beside.phase.trans awaits.phase,
      beside.completion.trans awaits.completion⟩
    intro name point found
    rcases beside.begins name point found with before | starts
    · exact awaits.rests name point before
    · exact starts
  · rw [bystanding, found] at allowed
    cases (Bool.and_eq_true_iff.mp allowed).2

theorem Awaits.meanwhile (awaits : station.Awaits id request phase woken)
    (meanwhile : station.Meanwhile id after) : after.Awaits id request phase woken := by
  obtain ⟨moves, ran⟩ := meanwhile
  exact run?_keeps (fun station => station.Awaits id request phase woken)
    (fun _ _ _ awaits allowed moved => awaits.move allowed moved) awaits ran

theorem task?_of_unknown (unknown : station.knows id = false) : station.task? id = none := by
  rw [task?, List.lookup_eq_none_iff]
  intro entry member
  have other := List.any_eq_false.mp unknown entry member
  rw [beq_iff_eq] at other
  exact bne_iff_ne.mpr fun same => other same.symm

theorem unknown_of_noTask (idle : station.tasks = []) (id : TaskId) :
    station.knows id = false := by
  rw [knows, idle, List.any_nil]

theorem quiet_of_noTask (idle : station.tasks = []) : station.Quiet := by
  intro id task found
  rw [task?, idle] at found
  cases found

theorem task?_submit (unknown : station.knows id = false) (task : Task) :
    (station.submit id task).task? id = some task := by
  have absent : station.tasks.lookup id = none := task?_of_unknown unknown
  rw [task?, submit, List.lookup_append, absent, Option.none_or, List.lookup_cons_self]

theorem task?_submit_other {other : TaskId} (task : Task) (apart : other ≠ id) :
    (station.submit id task).task? other = station.task? other := by
  have missed : (other == id) = false := beq_eq_false_iff_ne.mpr apart
  rw [task?, task?, submit, List.lookup_append, List.lookup_cons, missed, List.lookup_nil,
    Option.or_none]

theorem Sound.call (sound : station.Sound) (unknown : station.knows id = false) {task : Task}
    (starts : task.starts = true) : (station.call id task).Sound := by
  have moved : station.move? (.submit id task) = some (station.submit id task) :=
    if_pos ⟨unknown, starts⟩
  exact (sound.move moved).poll id pollBudget

theorem Sound.begins (sound : station.Sound) (quiet : station.Quiet)
    (ready : station.link.bus.Ready) (unknown : station.knows id = false)
    (blocking : request.mode = .blocking) (fits : request.payload.length ≤ maxPayloadLength)
    (buffer : request.waitForResponse = true →
      station.link.discardPhase.pool.outstanding < slots) :
    ∃ slot, slot.isSome = request.waitForResponse ∧
      (station.call id (.send request)).Awaits id request (.sending slot) false ∧
      (station.call id (.send request)).Sending id request := by
  obtain ⟨count, link, slot, few, calls, phase, some, silent, gate⟩ :=
    Link.send_calls id (sound.free quiet .gate) (sound.free quiet .registers) ready blocking fits
      fun waits => ⟨sound.accounted, buffer waits⟩
  have found := task?_submit unknown (.send request)
  have polled : station.call id (.send request) =
      { station.submit id (.send request) with link }.replaceTask id
        (.exchange (.send request) (.waiting .never)) :=
    poll_next (goesBy_caller id (.send request)) calls found
      (Link.waiting_waits (.send request) silent) (Nat.le_trans few (by decide))
  have waits : (station.call id (.send request)).task? id =
      Option.some (.exchange (.send request) (.waiting .never)) := by
    have found : { station.submit id (.send request) with link }.task? id =
        Option.some (.send request) := found
    rw [polled]
    exact task?_replaceTask_self found _
  have on : (station.call id (.send request)).link = link := by rw [polled]; rfl
  refine ⟨slot, some, ⟨sound.call unknown rfl, waits, ?_, on ▸ phase, on ▸ silent⟩, ?_⟩
  · intro other point present
    by_cases same : other = id
    · subst same
      cases waits.symm.trans present
    · have before : station.task? other = Option.some (.interrupt point) := by
        rw [polled, task?_replaceTask, if_neg same] at present
        rw [← present]
        exact (task?_submit_other (.send request) same).symm
      cases (quiet other _ before).2
  · refine ⟨on ▸ gate, ?_, waits⟩
    rw [on, Link.state, phase]

theorem call_handled (unknown : station.knows id = false) {point : InterruptPoint} {count : Nat}
    {link : Link slots size} {result : Except (Error BusFault) Unit}
    (serves : station.link.Serves id count point (.done link result)) (few : count ≤ 8) :
    (station.call id (.interrupt point)).link = link ∧
      (station.call id (.interrupt point)).tasks = station.tasks := by
  have polled : station.call id (.interrupt point) =
      { station.submit id (.interrupt point) with link }.finishTask id (.handled result) :=
    poll_done (goesBy_events id) serves (task?_submit unknown _) (Nat.le_trans few (by decide))
  rw [polled]
  refine ⟨rfl, ?_⟩
  have kept : (station.tasks ++ [(id, Task.interrupt point)]).filter
      (fun entry => entry.1 != id) = station.tasks := by
    have others : station.tasks.filter (fun entry => entry.1 != id) = station.tasks := by
      apply List.filter_eq_self.mpr
      intro entry member
      exact Bool.not_eq_true' _ ▸ Bool.eq_false_iff.mpr (List.any_eq_false.mp unknown entry member)
    rw [List.filter_append, others, List.filter_cons_of_neg (by simp), List.filter_nil,
      List.append_nil]
  exact kept

theorem Awaits.handled (awaits : station.Awaits id request phase woken) {other : TaskId}
    (unknown : station.knows other = false) {point : InterruptPoint}
    (starts : (Task.interrupt point).starts = true) {count : Nat} {link : Link slots size}
    {result : Except (Error BusFault) Unit}
    (serves : station.link.Serves other count point (.done link result)) (few : count ≤ 8) :
    (station.call other (.interrupt point)).link = link ∧
      (station.call other (.interrupt point)).Awaits id request link.phase link.completion := by
  obtain ⟨on, tasks⟩ := call_handled unknown serves few
  have same (name : TaskId) :
      (station.call other (.interrupt point)).task? name = station.task? name := by
    rw [task?, task?, tasks]
  refine ⟨on, awaits.sound.call unknown starts, (same id).trans awaits.caller, ?_, by rw [on],
    by rw [on]⟩
  intro name at_ found
  exact awaits.rests name at_ ((same name).symm.trans found)

theorem starts_of_arrives {bus : Bus} {point : InterruptPoint} {events : List Event}
    (arrives : Link.Arrives bus point events) : (Task.interrupt point).starts = true := by
  cases arrives <;> rfl

theorem Awaits.sent {slot : Option Slot} (awaits : station.Awaits id request (.sending slot) false)
    (reported : station.Reported [.sent] after) :
    match slot with
    | none => after.Awaits id request (.finished .completed) true
    | some slot => after.Awaits id request (.waitingResponse slot) false := by
  obtain ⟨other, point, unknown, arrives, rfl⟩ := reported
  have registers : station.link.registers = Lock.free :=
    awaits.free .registers nofun
  obtain ⟨count, bus, few, _, _, serves⟩ := Link.arrives_serves other arrives registers
  have starts := starts_of_arrives arrives
  have few : count ≤ 8 := by omega
  have phase := awaits.phase
  have silent := awaits.completion
  rw [Link.feedAll_singleton] at serves
  cases slot with
  | none =>
      have fed : { station.link with bus }.feed .sent =
          .done { { station.link with bus }.observed (.finished .completed) .empty with
            completion := true } (.ok ()) := by
        simp only [Link.feed, Link.observe, phase]
        rfl
      rw [fed] at serves
      exact (awaits.handled unknown starts serves few).2
  | some slot =>
      have fed : { station.link with bus }.feed .sent =
          .done ({ station.link with bus }.observed (.waitingResponse slot) .empty) (.ok ()) := by
        simp only [Link.feed, Link.observe, phase]
        rfl
      rw [fed] at serves
      have handled := (awaits.handled unknown starts serves few).2
      have same : ({ station.link with bus }.observed (.waitingResponse slot) .empty).completion =
          false := silent
      rw [same] at handled
      exact handled

/-- That the answer has been received ends a send that waits for it, also if it is told
together with the end of sending; and the payload goes to the handler. -/
theorem Awaits.received {slot : Slot} {events : List Event} {frame : LinkFrame}
    (awaits : station.Awaits id request phase woken)
    (answers : (phase = .waitingResponse slot ∧ events = [.received]) ∨
      (phase = .sending (some slot) ∧ events = [.sent, .received]))
    (reported : station.Reported events after) (healthy : station.link.bus.Healthy)
    (fits : (Link.received station.link.bus).length ≤ size)
    (decoded : decodeFrame? (Link.received station.link.bus) = some frame) :
    after.Awaits id request (.finished .completed) true ∧
      station.link.Passed after.link slot frame.payload := by
  obtain ⟨other, point, unknown, arrives, rfl⟩ := reported
  have registers : station.link.registers = Lock.free :=
    awaits.free .registers nofun
  have unlocked : station.link.pool.lockOf slot.index = Lock.free :=
    awaits.free (.buffer slot.index) nofun
  have phase := awaits.phase
  have holds : station.link.phase.slot? = some slot := by
    rw [phase]
    rcases answers with ⟨rfl, _⟩ | ⟨rfl, _⟩ <;> rfl
  have leads : ∀ bus, ∃ status, { station.link with bus }.feedAll events =
      .next { station.link with bus, phase := .delivering, status } (.copyLock slot) := by
    intro bus
    rcases answers with ⟨rfl, rfl⟩ | ⟨rfl, rfl⟩
    · refine ⟨station.link.status.insert .empty, ?_⟩
      simp only [Link.feedAll, Link.feed, Link.observe, phase]
      rfl
    · refine ⟨(station.link.status.insert .empty).insert .empty, ?_⟩
      simp only [Link.feedAll, Link.feed, Link.observe, phase, Phase.onEvent]
  obtain ⟨lost, balances⟩ := awaits.sound.balances
  have claimed : slot ∈ station.link.claims := by
    rw [Link.claims, holds]
    exact List.mem_cons_self
  have inside := Pool.isOwned_lt (balances.owned (.inl claimed))
  have room : station.link.queue.items.length < slots := by
    have counted := balances.balanced.outstanding_eq
    have bound := station.link.pool.outstanding_le
    rw [Link.claims, holds, List.length_append, List.length_append, List.length_map] at counted
    have one : (some slot).toList.length = 1 := rfl
    omega
  obtain ⟨count, link, result, few, serves, ended, signalled, passed⟩ :=
    Link.frame_serves other arrives leads registers inside unlocked healthy fits decoded room
  obtain ⟨on, handled⟩ := awaits.handled unknown (starts_of_arrives arrives) serves few
  rw [ended, signalled] at handled
  exact ⟨handled, on ▸ passed⟩

structure Completed (station : Station slots size capacity) (id : TaskId) (request : Request) :
    Prop where
  orderly : station.Orderly
  caller : station.task? id = some (.exchange (.send request) (.waiting .never))
  phase : station.link.phase = .finished .completed
  woken : station.link.completion = true

theorem Awaits.completed (awaits : station.Awaits id request (.finished .completed) true) :
    station.Completed id request :=
  ⟨awaits.sound.orderly, awaits.caller, awaits.phase, awaits.completion⟩

theorem Completed.move {move : Move capacity} (completed : station.Completed id request)
    (allowed : sparing id station move = true) (moved : station.move? move = some after) :
    after.Completed id request := by
  have gate : station.link.gate.holder = some id :=
    (completed.orderly.admits_task completed.caller rfl).gate nofun
  obtain ⟨kept, beside | ⟨other, point, turn, _, _, turns, reached⟩⟩ :=
    completed.orderly.spares gate completed.caller allowed moved
  · exact ⟨completed.orderly.move moved, kept, beside.phase.trans completed.phase,
      beside.completion.trans completed.woken⟩
  · obtain ⟨phase, completion⟩ := (turns.keeps_finished completed.phase).holds reached
    exact ⟨completed.orderly.move moved, kept, phase.trans completed.phase,
      completion.trans completed.woken⟩

theorem Completed.aside (completed : station.Completed id request)
    (aside : station.Aside id after) : after.Completed id request := by
  obtain ⟨moves, ran⟩ := aside
  exact run?_keeps (fun station => station.Completed id request)
    (fun _ _ _ completed allowed moved => completed.move allowed moved) completed ran

theorem Completed.returns (completed : station.Completed id request) :
    station.Returns id fun result => ∃ status, result = .ok (some status) := by
  obtain ⟨link, stepped, gate⟩ :=
    Link.waiting_returns id (.send request) completed.woken completed.phase
  have polled : poll id pollBudget station =
      { station with link }.finishTask id (.exchanged (.ok (some station.link.status))) :=
    poll_done (goesBy_caller id (.send request)) (Turn.After.of_eq stepped) completed.caller
      (by decide)
  rw [Returns, polled]
  exact ⟨_, ⟨_, rfl⟩, rfl, gate⟩

theorem Sound.refuses (sound : station.Sound) (quiet : station.Quiet)
    (ready : station.link.bus.Ready) (unknown : station.knows id = false)
    (tooLong : maxPayloadLength < request.payload.length) :
    (station.submit id (.send request)).Returns id (· =
        .error (.bufferTooSmall (frameLength request.payload + checkSequenceLength))) ∧
      (station.call id (.send request)).link.phase = .idle := by
  obtain ⟨count, bus, few, _, calls⟩ := Link.gate_calls id (.send request)
    (sound.free quiet .gate) (sound.free quiet .registers) ready
  rw [Link.prepare_tooLong tooLong] at calls
  have polled : station.call id (.send request) = _ :=
    poll_done (goesBy_caller id (.send request)) calls (task?_submit unknown (.send request))
      (Nat.le_trans few (by decide))
  rw [Station.call] at polled ⊢
  rw [Returns, polled]
  exact ⟨⟨_, rfl, rfl, rfl⟩, Link.entered_phase station.link id⟩

/-- The event side tells a send that its frame has been sent and, later or together with
that, that a frame has been received. At `answered` the received frame is still to be read. -/
inductive Answers (id : TaskId) (sending answered received : Station slots size capacity) : Prop
  | apart {waiting sent : Station slots size capacity} (meanwhile : sending.Meanwhile id waiting)
      (told : waiting.Reported [.sent] sent) (later : sent.Meanwhile id answered)
      (reported : answered.Reported [.received] received)
  | together (meanwhile : sending.Meanwhile id answered)
      (reported : answered.Reported [.sent, .received] received)

/-- After any run, once no call and no event is under way and the bus is ready, a blocking
send is refused for the length of its payload or starts its transaction. It then returns the
flags as soon as its frame has been sent and, if it waits for an answer, a link frame that
fits the buffer has been received, which goes to the handler. -/
theorem blocking_send_succeeds_after_any_run {rule : Rule slots size capacity}
    {opened left : Station slots size capacity} {moves : List (Move capacity)} (request : Request)
    (fresh : opened.Fresh) (ran : run? rule moves opened = some left) (quiet : left.Quiet)
    (ready : left.link.bus.Ready) (unknown : left.knows id = false)
    (blocking : request.mode = .blocking) :
    (maxPayloadLength < request.payload.length →
      (left.submit id (.send request)).Returns id (· =
          .error (.bufferTooSmall (frameLength request.payload + checkSequenceLength))) ∧
        (left.call id (.send request)).link.phase = .idle) ∧
    (request.payload.length ≤ maxPayloadLength → request.waitForResponse = false →
      (left.call id (.send request)).Sending id request ∧
      ∀ waiting sent told, (left.call id (.send request)).Meanwhile id waiting →
        waiting.Reported [.sent] sent → sent.Aside id told →
          told.Returns id fun result => ∃ status, result = .ok (some status)) ∧
    (request.payload.length ≤ maxPayloadLength → request.waitForResponse = true →
      left.link.discardPhase.pool.outstanding < slots →
        (left.call id (.send request)).Sending id request ∧
        ∀ answered received told frame,
          Answers id (left.call id (.send request)) answered received →
          answered.link.bus.Healthy → (Link.received answered.link.bus).length ≤ size →
          decodeFrame? (Link.received answered.link.bus) = some frame →
          received.Aside id told →
            (∃ slot, answered.link.Passed received.link slot frame.payload) ∧
            told.Returns id fun result => ∃ status, result = .ok (some status)) := by
  have sound := (sound_of_fresh fresh).run ran
  refine ⟨sound.refuses quiet ready unknown, ?_, ?_⟩
  · intro fits alone
    have noBuffer : request.waitForResponse = true →
        left.link.discardPhase.pool.outstanding < slots := by
      rw [alone]
      nofun
    obtain ⟨slot, some, awaits, sending⟩ :=
      sound.begins quiet ready unknown blocking fits noBuffer
    refine ⟨sending, ?_⟩
    intro waiting sent told before reported later
    cases slot with
    | some slot => rw [alone] at some; cases some
    | none => exact (((awaits.meanwhile before).sent reported).completed.aside later).returns
  · intro fits waits room
    obtain ⟨slot, some, awaits, sending⟩ :=
      sound.begins quiet ready unknown blocking fits fun _ => room
    refine ⟨sending, ?_⟩
    intro answered received told frame answers healthy short decoded later
    cases slot with
    | none => rw [waits] at some; cases some
    | some slot =>
        have finishes : received.Awaits id request (.finished .completed) true ∧
            answered.link.Passed received.link slot frame.payload := by
          cases answers with
          | apart before first between reported =>
              have waiting := ((awaits.meanwhile before).sent first).meanwhile between
              exact waiting.received (.inl ⟨rfl, rfl⟩) reported healthy short decoded
          | together before reported =>
              have waiting := awaits.meanwhile before
              exact waiting.received (.inr ⟨rfl, rfl⟩) reported healthy short decoded
        exact ⟨⟨slot, finishes.2⟩, (finishes.1.completed.aside later).returns⟩

def dropsReception : List (Move 0) :=
  [[.submit 1 (.receive .blocking 0)], List.replicate 7 (.step 1), [.cancel 1]].flatten

def asks : Request := (Request.ofPayload [9]).expectResponse 0

def answering : RegisterFile :=
  (RegisterFile.powerUp.receive arriving).store Register.systemStatus.index 0 [0x80, 0x40]

theorem answered_after_dropped_reception :
    ∃ opened left received : Station 1 127 0,
      opened.Fresh ∧ run? (fun _ _ => true) dropsReception opened = some left ∧
      left.Quiet ∧ left.link.bus.Ready ∧ left.link.state = .waitingResponse ∧
      (left.call 2 (.send asks)).Sending 2 asks ∧
      received.link.delivered = [[1, 2, 3]] ∧
      received.Returns 2 fun result => ∃ status, result = .ok (some status) := by
  have evaluated : (do
      let opened : Station 1 127 0 ← open? Device.unused {} .transfer
      let left ← run? (fun _ _ => true) dropsReception opened
      let answered ← run? (bystanding 2) [.disturb (.registers answering)]
        (left.call 2 (.send asks))
      return decide (
        (left.tasks.isEmpty ∧ left.link.bus.Ready ∧ left.link.state = .waitingResponse ∧
          left.link.discardPhase.pool.outstanding < 1) ∧
        answered.knows 3 = false ∧ answered.link.bus.Healthy ∧
          eventsTold (answered.link.bus.registers.value Register.systemStatus) =
            [.sent, .received] ∧
          answered.link.handler = .transfer ∧ answered.link.delivered = [] ∧
          Link.received answered.link.bus = arriving)) = some true := by
    decide +kernel
  obtain ⟨opened, isOpen, evaluated⟩ := Option.bind_eq_some_iff.mp evaluated
  obtain ⟨left, ran, evaluated⟩ := Option.bind_eq_some_iff.mp evaluated
  obtain ⟨answered, waited, evaluated⟩ := Option.bind_eq_some_iff.mp evaluated
  obtain ⟨⟨idle, ready, state, room⟩, unknown, healthy, pending, handler, delivered, frame⟩ :=
    of_decide_eq_true (Option.some.inj evaluated)
  have idle : left.tasks = [] := List.isEmpty_iff.mp idle
  obtain ⟨_, _, answers⟩ := blocking_send_succeeds_after_any_run asks (fresh_of_open? isOpen) ran
    (quiet_of_noTask idle) ready (unknown_of_noTask idle 2) rfl
  obtain ⟨sending, returns⟩ := answers (by decide) rfl room
  have reported : answered.Reported [.sent, .received] (answered.call 3 (.interrupt .statusLock)) :=
    ⟨3, .statusLock, unknown, .interrupt healthy (List.cons_ne_nil _ _) pending, rfl⟩
  obtain ⟨⟨slot, passed⟩, told⟩ := returns answered _ _
    { sequence := 7, source := some 1, payload := [1, 2, 3] }
    (.together ⟨_, waited⟩ reported) healthy (by rw [frame]; decide) (by rw [frame]; decide)
    ⟨[], rfl⟩
  refine ⟨opened, left, _, fresh_of_open? isOpen, ran, quiet_of_noTask idle, ready, state,
    sending, ?_, told⟩
  rw [Link.Passed, handler, delivered] at passed
  exact passed

def tooMuch : Request := Request.ofPayload (List.replicate 113 0)

theorem too_long_send_never_starts :
    ∃ opened : Station 1 127 0,
      opened.Fresh ∧ opened.Quiet ∧ opened.link.bus.Ready ∧ opened.knows 1 = false ∧
      tooMuch.mode = .blocking ∧ tooMuch.waitForResponse = false ∧
      ¬ (opened.call 1 (.send tooMuch)).Sending 1 tooMuch ∧
      (opened.submit 1 (.send tooMuch)).Returns 1 (· = .error (.bufferTooSmall 128)) := by
  have evaluated : (do
      let opened : Station 1 127 0 ← open? Device.unused {} .transfer
      return decide (opened.tasks.isEmpty ∧ opened.link.bus.Ready)) = some true := by
    decide +kernel
  obtain ⟨opened, isOpen, evaluated⟩ := Option.bind_eq_some_iff.mp evaluated
  obtain ⟨idle, ready⟩ := of_decide_eq_true (Option.some.inj evaluated)
  have idle : opened.tasks = [] := List.isEmpty_iff.mp idle
  have fresh := fresh_of_open? isOpen
  have unknown := unknown_of_noTask idle 1
  obtain ⟨refused, _⟩ := (sound_of_fresh fresh).refuses (quiet_of_noTask idle) ready unknown
    (by decide : maxPayloadLength < tooMuch.payload.length)
  refine ⟨opened, fresh, quiet_of_noTask idle, ready, unknown, rfl, rfl, ?_, refused⟩
  intro sending
  obtain ⟨_, _, _, free⟩ := refused
  cases free.symm.trans sending.gate

end Station

end UwbRadio
