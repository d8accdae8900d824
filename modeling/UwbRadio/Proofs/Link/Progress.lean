import UwbRadio.Proofs.Bus.Healthy
import UwbRadio.Proofs.Frame.Residue
import UwbRadio.Proofs.Link.CopyFrame
import UwbRadio.Proofs.Link.Locks
import UwbRadio.Proofs.Link.Payload
import UwbRadio.Proofs.Link.Permits

/-!
How far a task comes by itself. With the locks free and the bus healthy a caller goes
from the gate to the end of its start without waiting, whatever phase it finds, and an
event and the copy of a frame go through to their end.
-/

namespace UwbRadio

inductive Turn.After {state point result : Type}
    (step : state → point → Turn state point result) :
    Nat → state → point → Turn state point result → Prop
  | last {before at_} : After step 1 before at_ (step before at_)
  | more {count before at_ middle later turn} (goesOn : step before at_ = .next middle later)
      (after : After step count middle later turn) : After step (count + 1) before at_ turn

namespace Turn.After

variable {state point result : Type} {step : state → point → Turn state point result}
  {count rest : Nat} {before middle : state} {at_ later : point} {turn : Turn state point result}

theorem of_eq (stepped : step before at_ = turn) : After step 1 before at_ turn := by
  rw [← stepped]
  exact .last

theorem trans (first : After step count before at_ (.next middle later))
    (second : After step rest middle later turn) :
    After step (count + rest) before at_ turn := by
  generalize goesOn : Turn.next middle later = ending at first
  induction first with
  | last => rw [Nat.add_comm]; exact .more goesOn.symm second
  | more stepped _ ih => rw [Nat.succ_add]; exact .more stepped (ih goesOn)

end Turn.After

def maxPayloadLength : Nat := maxFrameLength - checkSequenceLength - frameLength []

namespace Link

variable {slots size : Nat} {link : Link slots size} {self : TaskId}

section caller

variable {exchange : Exchange} {request : Request}

abbrev Calls (link : Link slots size) (self : TaskId) (exchange : Exchange) (count : Nat)
    (point : CallerPoint) (turn : CallerTurn slots size) : Prop :=
  Turn.After (fun (link : Link slots size) point => link.callerStep self exchange point) count link
    point turn

theorem accesses_call (loop : List Access → CallerPoint)
    (ends : Link slots size → CallerTurn slots size)
    (turns : ∀ (link : Link slots size) (accesses rest : List Access) (bus : Bus),
      link.bus.stalled = false →
      (Access.advance accesses).perform link.bus = (.ok rest, bus) →
        link.callerStep self exchange (loop accesses) =
          if rest = [] then ends { link with bus } else .next { link with bus } (loop rest))
    {accesses : List Access} {bus before : Bus} {count : Nat}
    (completes : Access.Completes accesses before count bus) (same : link.bus = before) :
    link.Calls self exchange count (loop accesses) (ends { link with bus }) := by
  induction completes generalizing link with
  | last flows performed =>
      subst same
      have ended := turns link _ [] _ flows performed
      rw [if_pos rfl] at ended
      exact Turn.After.of_eq ended
  | more flows performed more completes ih =>
      subst same
      have goesOn := turns link _ _ _ flows performed
      rw [if_neg more] at goesOn
      exact .more goesOn (ih rfl)

theorem silencing_calls {accesses : List Access} {bus : Bus} {count : Nat}
    (completes : Access.Completes accesses link.bus count bus) :
    link.Calls self exchange count (.silencing accesses)
      ({ link with bus }.releaseRegisters.prepare exchange) := by
  refine accesses_call .silencing (fun link => link.releaseRegisters.prepare exchange) ?_
    completes rfl
  intro link accesses rest bus flows performed
  cases rest <;> simp [callerStep, flows, perform_eq, performed, mapError_ok]

theorem starting_calls {accesses : List Access} {deadline : Deadline} {bus : Bus} {count : Nat}
    (completes : Access.Completes accesses link.bus count bus) :
    link.Calls self (.send request) count (.starting accesses deadline)
      (.next { link with bus } (.checking deadline)) := by
  refine accesses_call (.starting · deadline) (fun link => .next link (.checking deadline)) ?_
    completes rfl
  intro link accesses rest bus flows performed
  cases rest <;> simp [callerStep, flows, perform_eq, performed, mapError_ok]

theorem plain_silenceAccesses : ∀ access ∈ silenceAccesses, access.Plain := by
  intro access member
  rcases List.mem_cons.mp member with rfl | member
  · exact ⟨⟨by decide, rfl, by decide⟩, by decide⟩
  · rw [List.mem_singleton.mp member]
    exact ⟨⟨by decide, rfl, by decide⟩, by decide⟩

theorem entered_pool (link : Link slots size) (id : TaskId) :
    (link.entered id).pool = link.discardPhase.pool := by
  unfold entered discardPhase
  cases link.phase.slot? <;> rfl

/-- Whatever phase it finds, a caller that gets the gate comes to prepare its own
transaction from an idle phase. -/
theorem gate_calls (self : TaskId) (exchange : Exchange) (gate : link.gate = Lock.free)
    (registers : link.registers = Lock.free) (ready : link.bus.Ready) :
    ∃ count bus, count ≤ 4 ∧ bus.Ready ∧
      link.Calls self exchange count .gate ({ link.entered self with bus }.prepare exchange) := by
  have entered : (link.entered self).registers = Lock.free := by
    rw [entered_registers, registers]
  cases leftOver : link.phase.unfinished with
  | false =>
      refine ⟨1, link.bus, by decide, ready, Turn.After.of_eq ?_⟩
      have same : { link.entered self with bus := link.bus } = link.entered self := by
        rw [← entered_bus link self]
      rw [same, callerStep, gate, leftOver]
      rfl
  | true =>
      rw [← entered_bus link self] at ready
      obtain ⟨bus, completes, still⟩ :=
        Access.completes_of_ready ready plain_silenceAccesses (List.cons_ne_nil _ _)
      refine ⟨1 + (1 + 2), bus, by decide, still, ?_⟩
      have first : link.Calls self exchange 1 .gate (.next (link.entered self) .silenceLock) := by
        apply Turn.After.of_eq
        rw [callerStep, gate, leftOver]
        rfl
      have second : (link.entered self).Calls self exchange 1 .silenceLock
          (.next { link.entered self with registers := Lock.heldBy self }
            (.silencing silenceAccesses)) := by
        apply Turn.After.of_eq
        rw [callerStep, entered]
        rfl
      have third : { link.entered self with registers := Lock.heldBy self }.Calls self exchange 2
          (.silencing silenceAccesses)
          ({ link.entered self with registers := Lock.free, bus }.prepare exchange) :=
        silencing_calls completes
      have freed : { link.entered self with registers := Lock.free, bus } =
          { link.entered self with bus } := by
        rw [← entered]
      rw [freed] at third
      exact first.trans (second.trans third)

theorem plain_transmitAccesses (request : Request) {frame : Bytes}
    (fits : frame.length ≤ Register.transmitBuffer.width) :
    (∀ access ∈ transmitAccesses request frame, access.Plain) ∧
      ((transmitAccesses request frame).map Access.transfers).sum ≤ 7 := by
  have load : (Access.load Register.transmitBuffer frame).Plain :=
    ⟨⟨by decide, rfl, by decide⟩, fits⟩
  have control : (transmitControlAccess request frame).Plain :=
    ⟨⟨by decide, rfl, by decide⟩, by decide⟩
  have start (value : UInt64) : (Access.write Register.systemControl value).Plain :=
    ⟨⟨by decide, rfl, by decide⟩, by decide⟩
  have timeout : ∀ access ∈ receiveTimeoutAccesses request.responseTimeout, access.Plain := by
    intro access member
    rcases List.mem_cons.mp member with rfl | member
    · exact ⟨⟨by decide, rfl, by decide⟩, by decide⟩
    · rw [List.mem_singleton.mp member]
      exact ⟨⟨by decide, rfl, by decide⟩, by decide⟩
  constructor
  · intro access member
    rcases List.mem_cons.mp member with rfl | member
    · exact load
    rcases List.mem_cons.mp member with rfl | member
    · exact control
    split at member
    · rcases List.mem_append.mp member with early | last
      · exact timeout access early
      · rw [List.mem_singleton.mp last]
        exact start _
    · rw [List.mem_singleton.mp member]
      exact start _
  · cases waits : request.waitForResponse <;>
      simp [transmitAccesses, transmitControlAccess, receiveTimeoutAccesses, Access.transfers,
        waits]

theorem start_calls (link : Link slots size) (self : TaskId) (request : Request)
    (registers : link.registers = Lock.free) (ready : link.bus.Ready) {frame : Bytes}
    (fits : frame.length ≤ Register.transmitBuffer.width) (deadline : Deadline) :
    ∃ count bus, count ≤ 9 ∧ bus.Ready ∧
      link.Calls self (.send request) count (.startLock frame deadline)
        (.next { link with bus } (.waiting deadline)) := by
  obtain ⟨plain, few⟩ := plain_transmitAccesses request fits
  obtain ⟨middle, completes, still⟩ :=
    Access.completes_of_ready ready plain (List.cons_ne_nil _ _)
  have status : Register.systemStatus.Plain := ⟨by decide, rfl, by decide⟩
  obtain ⟨bus, checked, later, same⟩ := Register.read_healthy still.toHealthy status (by decide)
  have first : link.Calls self (.send request) 1 (.startLock frame deadline)
      (.next { link with registers := Lock.heldBy self }
        (.starting (transmitAccesses request frame) deadline)) := by
    apply Turn.After.of_eq
    rw [callerStep, registers]
    rfl
  have second : { link with registers := Lock.heldBy self }.Calls self (.send request)
      ((transmitAccesses request frame).map Access.transfers).sum
      (.starting (transmitAccesses request frame) deadline)
      (.next { link with registers := Lock.heldBy self, bus := middle } (.checking deadline)) :=
    starting_calls completes
  have third : { link with registers := Lock.heldBy self, bus := middle }.Calls self
      (.send request) 1 (.checking deadline)
      (.next { link with registers := Lock.free, bus } (.waiting deadline)) := by
    have inTime : middle.registers.value Register.systemStatus &&& Bits.halfPeriodWarning = 0 :=
      still.unwarned
    apply Turn.After.of_eq
    simp only [callerStep, still.toHealthy.not_stalled, perform_eq, checked, mapError_ok,
      Bool.false_eq_true, if_false, inTime, if_true]
    rfl
  have freed : { link with registers := Lock.free, bus } = { link with bus } := by
    rw [← registers]
  rw [freed] at third
  exact ⟨_, bus, by omega, ⟨later, same ▸ still.unwarned⟩, first.trans (second.trans third)⟩

theorem encodeFrame_fits (fault : Type) (header : LinkHeader) {payload : Bytes}
    (fits : payload.length ≤ maxPayloadLength) :
    ∃ buffer, (encodeFrame (List.replicate maxFrameLength 0) header payload :
      Except (Error fault) (Nat × Bytes)) = .ok (frameLength payload, buffer) := by
  have room : ¬ (frameLength payload + checkSequenceLength > maxFrameLength ∨
      frameLength payload > (List.replicate maxFrameLength (0 : UInt8)).length) := by
    rw [List.length_replicate, frameLength]
    have limit : maxPayloadLength + (frameHeaderLength + linkTag.length) + checkSequenceLength =
        maxFrameLength := rfl
    omega
  exact ⟨_, if_neg room⟩

theorem encodeFrame_tooLong (fault : Type) (header : LinkHeader) {payload : Bytes}
    (tooLong : maxPayloadLength < payload.length) :
    (encodeFrame (List.replicate maxFrameLength 0) header payload :
      Except (Error fault) (Nat × Bytes)) =
        .error (.bufferTooSmall (frameLength payload + checkSequenceLength)) := by
  have limit : maxPayloadLength + (frameHeaderLength + linkTag.length) + checkSequenceLength =
      maxFrameLength := rfl
  apply encodeFrame_refused
  rw [FitsBuffer, frameLength]
  omega

theorem prepare_tooLong (tooLong : maxPayloadLength < request.payload.length) :
    link.prepare (.send request) = .done link.releaseGate
      (.error (.bufferTooSmall (frameLength request.payload + checkSequenceLength))) := by
  simp only [prepare, encodeFrame_tooLong BusFault _ tooLong]
  rfl

theorem send_calls (self : TaskId) (gate : link.gate = Lock.free)
    (registers : link.registers = Lock.free) (ready : link.bus.Ready)
    (blocking : request.mode = .blocking) (fits : request.payload.length ≤ maxPayloadLength)
    (buffer : request.waitForResponse = true → link.pool.Accounted ∧
      link.discardPhase.pool.outstanding < slots) :
    ∃ count after slot, count ≤ 14 ∧
      link.Calls self (.send request) count .gate (.next after (.waiting .never)) ∧
      after.phase = .sending slot ∧ slot.isSome = request.waitForResponse ∧
      after.completion = false ∧ after.gate = Lock.heldBy self := by
  obtain ⟨entering, bus, few, ready, entered⟩ :=
    gate_calls self (.send request) gate registers ready
  have deadline : request.mode.deadline = .never := by rw [blocking]; rfl
  have held : (link.entered self).gate = Lock.heldBy self := by simp [Link.entered, discardPhase]
  have free : (link.entered self).registers = Lock.free := by rw [entered_registers, registers]
  obtain ⟨written, encoded⟩ := encodeFrame_fits BusFault
    ({ link.entered self with bus }.nextHeader request.destination) fits
  have short : (written.take (frameLength request.payload)).length ≤
      Register.transmitBuffer.width := by
    have sent := (frame_of_encodeFrame encoded).2
    rw [(frame_of_encodeFrame encoded).1]
    exact Nat.le_trans (Nat.le_of_add_right_le sent) (by decide)
  cases waits : request.waitForResponse with
  | false =>
      have prepared : { link.entered self with bus }.prepare (.send request) =
          .next ({ link.entered self with bus }.beginTransaction (.sending none) true)
            (.startLock (written.take (frameLength request.payload)) .never) := by
        simp only [prepare, encoded, waits, Exchange.mode, deadline]
        rfl
      rw [prepared] at entered
      obtain ⟨starting, bus, some, _, started⟩ := start_calls
        ({ link.entered self with bus }.beginTransaction (.sending none) true) self request free
        ready short .never
      exact ⟨_, _, none, by omega, entered.trans started, rfl, rfl, rfl, held⟩
  | true =>
      obtain ⟨accounted, room⟩ := buffer waits
      have whole : (link.entered self).pool.Accounted := accounted_entered link accounted self
      have some : ∃ slot pool, (link.entered self).pool.reserve = (some slot, pool) := by
        rw [← entered_pool link self] at room
        have found := whole.reserve_isSome.1.mpr room
        cases reserved : (link.entered self).pool.reserve with
        | mk slot pool =>
            rw [reserved] at found
            obtain ⟨slot, rfl⟩ := Option.isSome_iff_exists.mp found
            exact ⟨slot, pool, rfl⟩
      obtain ⟨slot, pool, reserved⟩ := some
      have prepared : { link.entered self with bus }.prepare (.send request) =
          .next { link.entered self with bus }
            (.reserving (written.take (frameLength request.payload)) .never) := by
        simp only [prepare, encoded, waits, Exchange.mode, deadline]
        rfl
      rw [prepared] at entered
      have reserving : { link.entered self with bus }.Calls self (.send request) 1
          (.reserving (written.take (frameLength request.payload)) .never)
          (.next ({ link.entered self with bus, pool }.beginTransaction (.sending (some slot)) true)
            (.startLock (written.take (frameLength request.payload)) .never)) := by
        apply Turn.After.of_eq
        simp only [callerStep, reserved]
        rfl
      obtain ⟨starting, bus, some, _, started⟩ := start_calls
        ({ link.entered self with bus, pool }.beginTransaction (.sending (some slot)) true) self
        request free ready short .never
      exact ⟨_, _, Option.some slot, by omega, entered.trans (reserving.trans started), rfl, rfl,
        rfl, held⟩

end caller

/-! ### The end of a transaction -/

theorem waiting_waits (exchange : Exchange) (silent : link.completion = false) :
    link.callerStep self exchange (.waiting .never) = .wait := by
  simp only [callerStep, silent]
  rfl

theorem waiting_returns (self : TaskId) (exchange : Exchange) (woken : link.completion = true)
    (phase : link.phase = .finished .completed) :
    ∃ after, link.callerStep self exchange (.waiting .never) = .done after (.ok link.status) ∧
      after.gate = Lock.free := by
  refine ⟨({ link with completion := false, phase := .idle }.conclude .completed
    exchange.counted).2.releaseGate, ?_, rfl⟩
  simp only [callerStep, woken, takeFinished, phase]
  rfl

theorem Feeding.keeps_finished {event : Event} {turn : InterruptTurn slots size}
    {outcome : Outcome} (fed : Feeding link event turn)
    (finished : link.phase = .finished outcome) :
    turn.Leaves fun after =>
      after.phase = link.phase ∧ after.completion = link.completion := by
  have unmoved : link.phase.onEvent event = (link.phase, .empty, .spurious) := by
    rw [finished]
    cases event <;> rfl
  cases fed with
  | passed moved => cases unmoved.symm.trans moved; exact ⟨rfl, rfl⟩
  | signalled moved => cases unmoved.symm.trans moved
  | copying moved => cases unmoved.symm.trans moved
  | released moved => cases unmoved.symm.trans moved
  | drained moved => cases unmoved.symm.trans moved

theorem FeedingAll.keeps_finished {events : List Event} {turn : InterruptTurn slots size}
    {outcome : Outcome} (fed : FeedingAll link events turn)
    (finished : link.phase = .finished outcome) :
    turn.Leaves fun after =>
      after.phase = link.phase ∧ after.completion = link.completion := by
  induction fed with
  | nil => exact ⟨rfl, rfl⟩
  | last fed => exact fed.keeps_finished finished
  | cons fed later ih =>
      obtain ⟨phase, completion⟩ := fed.keeps_finished finished
      refine (ih (phase.trans finished)).mono fun after same => ?_
      exact ⟨same.1.trans phase, same.2.trans completion⟩

theorem InterruptTurns.keeps_finished {id : TaskId} {point : InterruptPoint}
    {turn : InterruptTurn slots size} {outcome : Outcome}
    (turns : InterruptTurns link id point turn) (finished : link.phase = .finished outcome) :
    turn.Leaves fun after =>
      after.phase = link.phase ∧ after.completion = link.completion := by
  cases copies : point.copies? with
  | none =>
      rcases turns.feeding copies with rfl | ⟨middle, same, fed⟩ | ⟨_, still, _⟩
      · trivial
      · refine (fed.keeps_finished (same.phase.trans finished)).mono fun after kept => ?_
        exact ⟨kept.1.trans same.phase, kept.2.trans same.completion⟩
      · exact still.mono fun after same => ⟨same.phase, same.completion⟩
  | some slot =>
      rcases turns.copying copies with rfl | ⟨next, later, rfl, _, agrees⟩ |
        ⟨middle, copied, agrees, ended⟩
      · trivial
      · exact ⟨agrees.phase, agrees.completion⟩
      · have still := agrees.phase.trans finished
        rw [ended.stale_eq (by rw [still]; nofun) (by rw [still]; nofun)]
        exact ⟨agrees.phase, agrees.completion⟩

/-! ### The event side -/

abbrev Serves (link : Link slots size) (self : TaskId) (count : Nat) (point : InterruptPoint)
    (turn : InterruptTurn slots size) : Prop :=
  Turn.After (fun (link : Link slots size) point => link.interruptStep self point) count link point
    turn

def feedAll (link : Link slots size) : List Event → InterruptTurn slots size
  | [] => .done link (.ok ())
  | event :: rest =>
      match link.feed event with
      | .done link (.ok ()) => link.feedAll rest
      | other => other

theorem feedAll_singleton (link : Link slots size) (event : Event) :
    link.feedAll [event] = link.feed event := by
  have fed := feed_turns link event
  rw [feedAll]
  generalize link.feed event = turn at fed
  cases fed <;> rfl

theorem feedReception_eq (link : Link slots size) (pending : UInt64) :
    (match receptionEvent? pending with
      | some event => link.feed event
      | none => .done link (.ok ())) = link.feedAll (receptionEvent? pending).toList := by
  cases receptionEvent? pending with
  | none => rfl
  | some event => exact (link.feedAll_singleton event).symm

theorem feedPending_eq (link : Link slots size) (pending : UInt64) :
    link.feedPending pending = link.feedAll (eventsTold pending) := by
  rw [eventsTold_eq]
  unfold feedPending
  cases sent : pendingIn pending Bits.frameSent with
  | false => exact link.feedReception_eq pending
  | true =>
      obtain ⟨next, fed⟩ := link.feed_sent_done
      simp only [if_true, fed, List.singleton_append, feedAll]
      exact next.feedReception_eq pending

/-- The ways in which the event side learns of events: one is fed in, or an interrupt is
served while just these are pending. -/
inductive Arrives (bus : Bus) : InterruptPoint → List Event → Prop
  | event {event} : Arrives bus (.event event) [event]
  | interrupt {events} (healthy : bus.Healthy) (some : events ≠ [])
      (pending : eventsTold (bus.registers.value Register.systemStatus) = events) :
      Arrives bus .statusLock events

theorem arrives_serves {point : InterruptPoint} {events : List Event} (self : TaskId)
    (arrives : Arrives link.bus point events) (registers : link.registers = Lock.free) :
    ∃ count bus, count ≤ 3 ∧ (link.bus.Healthy → bus.Healthy) ∧
      received bus = received link.bus ∧
      link.Serves self count point ({ link with bus }.feedAll events) := by
  cases arrives with
  | @event event =>
      refine ⟨1, link.bus, by decide, id, rfl, Turn.After.of_eq ?_⟩
      exact (feedAll_singleton link event).symm
  | interrupt healthy some pending =>
      have plain : Register.systemStatus.Plain := ⟨by decide, rfl, by decide⟩
      obtain ⟨middle, read, still, same⟩ := Register.read_healthy healthy plain (by decide)
      rw [← eventsTold_engineEvents] at pending
      generalize told : link.bus.registers.value Register.systemStatus &&& Bits.engineEvents = bits
        at pending
      obtain ⟨bus, written, later, cleared⟩ :=
        Register.write_healthy still plain (by decide) bits
      have any : bits ≠ 0 := by
        rintro rfl
        exact some pending.symm
      have first : link.Serves self 1 .statusLock
          (.next { link with registers := Lock.heldBy self } .readStatus) := by
        apply Turn.After.of_eq
        rw [interruptStep, registers]
        rfl
      have second : { link with registers := Lock.heldBy self }.Serves self 1 .readStatus
          (.next { link with registers := Lock.heldBy self, bus := middle }
            (.clearStatus bits)) := by
        apply Turn.After.of_eq
        simp only [interruptStep, healthy.not_stalled, perform_eq, read, mapError_ok,
          Bool.false_eq_true, if_false, told, any]
      have third : { link with registers := Lock.heldBy self, bus := middle }.Serves self 1
          (.clearStatus bits) ({ link with registers := Lock.free, bus }.feedAll events) := by
        apply Turn.After.of_eq
        simp only [interruptStep, still.not_stalled, perform_eq, written, mapError_ok,
          Bool.false_eq_true, if_false, feedPending_eq, pending]
        rfl
      have freed : { link with registers := Lock.free, bus } = { link with bus } := by
        rw [← registers]
      rw [freed] at third
      refine ⟨1 + (1 + 1), bus, by decide, fun _ => later, ?_, first.trans (second.trans third)⟩
      have info : Register.receiveInfo.index ≠ Register.systemStatus.index := by decide
      have buffer : Register.receiveBuffer.index ≠ Register.systemStatus.index := by decide
      rw [received, received, RegisterFile.value, RegisterFile.value, cleared, same,
        RegisterFile.read_write_other _ _ _ info, RegisterFile.read_write_other _ _ _ buffer]

theorem copy_serves (link : Link slots size) (self : TaskId) {slot : Slot} {frame : LinkFrame}
    (delivering : link.phase = .delivering) (registers : link.registers = Lock.free)
    (inside : slot.index < slots) (unlocked : link.pool.lockOf slot.index = Lock.free)
    (healthy : link.bus.Healthy) (fits : (received link.bus).length ≤ size)
    (decoded : decodeFrame? (received link.bus) = some frame) :
    ∃ middle turn, link.Serves self 4 (.copyLock slot) turn ∧ turn ≠ .wait ∧
      Agrees link middle ∧ Accepted middle slot turn ∧
      (turn.Leaves fun after => after.pool.contents slot = frame.payload ∧
        after.phase = .finished .completed ∧ after.completion = true ∧
        after.delivered = link.delivered) ∧
      ∀ after later, turn = .next after later → after.pool.lockOf slot.index = Lock.free := by
  have accessible : link.pool.accessible slot = true :=
    Pool.accessible_iff.mpr ⟨inside, by rw [unlocked]; rfl⟩
  have first : link.Serves self 1 (.copyLock slot)
      (.next { link with registers := Lock.heldBy self } (.readLength slot)) := by
    apply Turn.After.of_eq
    rw [interruptStep, registers]
    rfl
  obtain ⟨bus, second⟩ :=
    measures_frame { link with registers := Lock.heldBy self } self slot healthy
  obtain ⟨_, still, same⟩ := (interruptTurns_of_eq second).reads_on .length healthy rfl
  dsimp only at second still same
  rw [← same] at second fits decoded
  obtain ⟨buffer, third⟩ :=
    claims_buffer { link with registers := Lock.heldBy self, bus } self accessible fits
  have own := (interruptTurns_of_eq third).claims
  obtain ⟨middle, returns, returned⟩ := reads_frame own still
  have agrees : Agrees link middle :=
    Agrees.trans (by constructor <;> rfl) returned.agrees
  rw [decoded] at returns
  have ended := endCopy_turns middle slot (.ok true)
  have delivers : middle.phase = .delivering := agrees.phase.trans delivering
  have serves : link.Serves self 4 (.copyLock slot) (middle.endCopy slot (.ok true)) :=
    first.trans ((Turn.After.of_eq second).trans
      ((Turn.After.of_eq third).trans (Turn.After.of_eq returns)))
  have goes := (ended.goes.resolve_right fun refused => refused.1 ⟨delivers, rfl⟩).2
  refine ⟨middle, _, serves, endCopy_moves _ _ _, agrees, goes,
    ((ended.of_delivering delivers).and (ended.delivered.and ended.sameBytes)).mono ?_, ?_⟩
  · rintro after ⟨⟨phase, completion⟩, delivered, bytes⟩
    exact ⟨(bytes.contents slot).trans (returned.payload frame decoded), phase, completion,
      delivered.trans agrees.delivered⟩
  · intro after later goesOn
    rw [goesOn] at ended
    exact (Pool.SameBytes.lockOf ended.sameBytes slot.index).trans returned.unlocked

/-- A payload has gone to the handler: to the sink, or in its buffer to the queue if that
is on. A handler that looks at the completion alone, and a queue that is off, leave the
buffer free. -/
def Passed (link after : Link slots size) (slot : Slot) (payload : Bytes) : Prop :=
  match link.handler with
  | .transfer => after.delivered = payload :: link.delivered
  | .ranging =>
      if link.queue.enabled = true then
        after.queue.items = link.queue.items ++ [⟨slot⟩] ∧ after.pool.contents slot = payload
      else
        after.queue = link.queue ∧ after.pool.isOwned slot.index = false
  | .ping => after.queue = link.queue ∧ after.pool.isOwned slot.index = false

theorem accepted_passes {middle : Link slots size} {slot : Slot} {payload : Bytes}
    {turn : InterruptTurn slots size} (self : TaskId) (accepted : Accepted middle slot turn)
    (agrees : Agrees link middle) (inside : slot.index < slots)
    (room : link.queue.items.length < slots)
    (loaded : turn.Leaves fun after => after.pool.contents slot = payload ∧
      after.phase = .finished .completed ∧ after.completion = true ∧
      after.delivered = link.delivered)
    (unlocked : ∀ after later, turn = .next after later →
      after.pool.lockOf slot.index = Lock.free) :
    ∃ after result, after.phase = .finished .completed ∧ after.completion = true ∧
      link.Passed after slot payload ∧
      (turn = .done after result ∨ ∃ next later, turn = .next next later ∧
        next.interruptStep self later = .done after result) := by
  cases accepted with
  | @handover next transfers queue pool =>
      obtain ⟨contents, phase, completion, delivered⟩ := loaded
      have accessible : next.pool.accessible slot = true := by
        refine Pool.accessible_iff.mpr ⟨inside, ?_⟩
        rw [unlocked next _ rfl]
        rfl
      refine ⟨next.deliver slot, .ok (), phase, completion, ?_, .inr ⟨next, _, rfl, ?_⟩⟩
      · rw [agrees.handler] at transfers
        simp only [Passed, transfers]
        exact congr (congrArg List.cons contents) delivered
      · simp only [interruptStep, accessible, if_true]
  | @queued next queue result ranges pushed queued pool =>
      obtain ⟨contents, phase, completion, _⟩ := loaded
      refine ⟨next, result, phase, completion, ?_, .inl rfl⟩
      rw [agrees.handler] at ranges
      rw [agrees.queue, Ranging.Queue.push?] at pushed
      split at pushed
      · rename_i open_
        cases pushed
        simp only [Passed, ranges, if_pos open_.1]
        exact ⟨congrArg Ranging.Queue.items queued, contents⟩
      · cases pushed
  | @refused next result ranges closed queue pool =>
      obtain ⟨_, phase, completion, _⟩ := loaded
      refine ⟨next, result, phase, completion, ?_, .inl rfl⟩
      rw [agrees.handler] at ranges
      have off : ¬ link.queue.enabled = true := by
        intro on
        rw [agrees.queue, Ranging.Queue.push?, if_pos ⟨on, room⟩] at closed
        cases closed
      simp only [Passed, ranges, if_neg off]
      exact ⟨queue.trans agrees.queue, by rw [pool, Pool.isOwned_release]; simp⟩
  | @answered next result pings queue pool =>
      obtain ⟨_, phase, completion, _⟩ := loaded
      refine ⟨next, result, phase, completion, ?_, .inl rfl⟩
      rw [agrees.handler] at pings
      simp only [Passed, pings]
      exact ⟨queue.trans agrees.queue, by rw [pool, Pool.isOwned_release]; simp⟩

/-- Events that have arrived and lead to a link frame are served to the end: the
transaction completes, its caller is woken, and the payload goes to the handler. -/
theorem frame_serves {point : InterruptPoint} {events : List Event} {slot : Slot}
    {frame : LinkFrame} (self : TaskId) (arrives : Arrives link.bus point events)
    (leads : ∀ bus, ∃ status, { link with bus }.feedAll events =
      .next { link with bus, phase := .delivering, status } (.copyLock slot))
    (registers : link.registers = Lock.free) (inside : slot.index < slots)
    (unlocked : link.pool.lockOf slot.index = Lock.free) (healthy : link.bus.Healthy)
    (fits : (received link.bus).length ≤ size)
    (decoded : decodeFrame? (received link.bus) = some frame)
    (room : link.queue.items.length < slots) :
    ∃ count after result, count ≤ 8 ∧ link.Serves self count point (.done after result) ∧
      after.phase = .finished .completed ∧ after.completion = true ∧
      link.Passed after slot frame.payload := by
  obtain ⟨arriving, bus, few, well, same, fed⟩ := arrives_serves self arrives registers
  obtain ⟨status, leads⟩ := leads bus
  rw [leads] at fed
  rw [← same] at fits decoded
  obtain ⟨middle, turn, copied, moves, agrees, accepted, loaded, freed⟩ :=
    copy_serves { link with bus, phase := .delivering, status } self rfl registers inside unlocked
      (well healthy) fits decoded
  obtain ⟨after, result, phase, completion, passed, ends⟩ :=
    accepted_passes self accepted agrees inside room loaded freed
  rcases ends with rfl | ⟨next, later, rfl, handed⟩
  · exact ⟨_, after, result, by omega, fed.trans copied, phase, completion, passed⟩
  · exact ⟨_, after, result, by omega, fed.trans (copied.trans (Turn.After.of_eq handed)), phase,
      completion, passed⟩

end Link

end UwbRadio
