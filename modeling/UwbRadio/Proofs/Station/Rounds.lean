import UwbRadio.Proofs.Ranging.Message
import UwbRadio.Proofs.Station.Request
import UwbRadio.Proofs.Station.Rotation

/-!
Rounds of requests. When ticks run one after the other and the session is started only
between them, they ask the pairs of the table in turn, whatever comes of each, and what they
send says so: the frame in the transmit buffer when the transmitter starts is the request to
the pair that the tick has taken.
-/

namespace UwbRadio

open Ranging (LinkedSession Session Pair Message)

/-- The message asks the first node of the pair to range against the second. -/
structure Ranging.Message.Asks (message : Message) (master : UInt16) (pair : Pair) : Prop where
  code : message.code = 0x11
  master : message.master = master
  first : message.first = pair.first
  second : message.second = pair.second
  unmeasured : message.timeOfFlight = 0

structure Request.Asks (request : Request) (master : UInt16) (pair : Pair) : Prop where
  payload : ∃ message : Message, request.payload = message.encode .little ∧
    message.Asks master pair
  destination : request.destination = some pair.first
  ranging : request.ranging = true

theorem Ranging.Session.requestTo_asks {capacity : Nat} (session : Session capacity)
    (pair : Pair) : (session.requestTo pair).Asks session.table.master pair where
  payload := ⟨session.requestMessage pair, rfl, rfl, rfl, rfl, rfl, rfl⟩
  destination := rfl
  ranging := rfl

theorem Ranging.Session.nextRequest?_of_pairs {capacity : Nat} (session : Session capacity)
    (pairs : 0 < session.table.size) : ∃ request, session.nextRequest? = some request := by
  have inside : session.index % max session.table.size 1 < session.table.pairs.length :=
    Nat.lt_of_lt_of_eq (Nat.mod_lt _ (by omega)) (Nat.max_eq_left pairs)
  have next : session.nextPair? = some _ := List.getElem?_eq_getElem inside
  exact ⟨_, congrArg (Option.map session.requestTo) next⟩

/-- What the device transmits is the request to the pair, from what it was last written. -/
structure Link.Transmits {slots size : Nat} (link : Link slots size) (master : UInt16)
    (pair : Pair) (buffer control : Written) (frame : LinkFrame) (message : Message) : Prop where
  loaded : lastTo Register.transmitBuffer link.bus.written = some buffer
  decoded : decodeFrame? buffer.data = some frame
  read : Message.read .little frame.payload 0 = .ok (message, 11)
  asks : message.Asks master pair
  addressed : frameDestination? buffer.data = some pair.first
  numbered : frame.sequence + 1 = link.sequence
  set : lastTo Register.transmitControl link.bus.written = some control
  whole : control.value &&& Bits.frameLength =
    UInt64.ofNat (buffer.data.length + checkSequenceLength)
  front : control.value &&& Bits.transmitOffset = 0
  ranging : control.value &&& Bits.rangingFrame ≠ 0

theorem Link.transmits_of_loaded {slots size : Nat} {link : Link slots size} {request : Request}
    {master : UInt16} {pair : Pair} {data : Bytes} (asks : request.Asks master pair)
    (makes : request.Makes (link.sequence - 1) data)
    (loaded : Loaded request data link.bus.written) :
    ∃ buffer control frame message,
      link.Transmits master pair buffer control frame message := by
  obtain ⟨message, payload, meant⟩ := asks.payload
  obtain ⟨buffer, inBuffer, rfl⟩ := loaded.buffer
  obtain ⟨control, set, whole, front, ranging⟩ := loaded.control
  obtain ⟨header, number, destination, same⟩ := makes.encoded
  have fits := makes.fits
  rw [same] at fits
  have decoded := decodeFrame?_frame header request.payload fits
  rw [← same] at decoded
  refine ⟨buffer, control, _, message, inBuffer, decoded, ?_, meant, ?_, ?_, set, whole, front,
    ?_⟩
  · rw [payload]
    exact message.read_encode .little
  · rw [same, frameDestination?_frame header request.payload fits, destination, asks.destination]
    rfl
  · rw [number]
    exact UInt8.sub_add_cancel link.sequence 1
  · rw [ranging, asks.ranging]
    decide

namespace Station

variable {slots size capacity : Nat} {station after : Station slots size capacity}
  {log : RotationLog} {id : TaskId}

/-- Ticks run one after the other, and the session is started only between them. -/
def ticksOneByOne : Rule slots size capacity
  | station, .start => station.ticking == 0
  | station, move => ticksInOrder station move

theorem ticksInOrder_of_oneByOne {move : Move capacity}
    (allowed : ticksOneByOne station move = true) : ticksInOrder station move = true := by
  cases move with
  | start => rfl
  | _ => exact allowed

theorem note_taken_other {move : Move capacity} (unstepped : move ≠ .step id) :
    (log.note station move after).taken id = log.taken id := by
  cases move with
  | step other =>
      have apart : id ≠ other := fun same => unstepped (congrArg Move.step same.symm)
      simp only [RotationLog.note]
      split
      · unfold RotationLog.begin
        split
        · rfl
        · exact if_neg apart
      · rfl
      · rfl
  | openSession =>
      rw [RotationLog.note]
      split <;> rfl
  | _ => rfl

theorem note_taken_begin {session : Session capacity} {pair : Pair}
    (opened : station.session = some session) (next : session.nextPair? = some pair)
    (before : station.asking id = false) (later : after.asking id = true) :
    (log.note station (.step id) after).taken id = some (session.table.master, pair) := by
  simp [RotationLog.note, before, later, RotationLog.begin, opened, next]

theorem note_goesOn (before : station.asking id = true) (later : after.asking id = true) :
    log.note station (.step id) after = log := by
  simp only [RotationLog.note, before, later]

theorem note_earlier_step : (log.note station (.step id) after).earlier = log.earlier := by
  simp only [RotationLog.note]
  split
  · unfold RotationLog.begin
    split <;> rfl
  · rfl
  · rfl

/-- What holds in every run in which ticks run one by one: a request under way asks the
pair that its tick has taken. -/
structure Asking (log : RotationLog) (station : Station slots size capacity) : Prop where
  rotating : station.Rotating log
  anew : log.earlier = 0
  holding : station.Holding
  bearing : station.Bearing
  asked : ∀ id request point, station.asks? id = some (request, point) →
    ∃ master pair, log.taken id = some (master, pair) ∧ request.Asks master pair

theorem asking_of_fresh (fresh : station.Fresh) : station.Asking {} := by
  refine ⟨rotating_of_fresh fresh, rfl, holding_of_fresh fresh, bearing_of_fresh fresh, ?_⟩
  obtain ⟨device, config, handler, link, _, rfl⟩ := fresh
  intro id request point asks
  cases asks

theorem Asking.note_anew {move : Move capacity} (asking : station.Asking log)
    (allowed : ticksOneByOne station move = true) :
    (log.note station move after).earlier = 0 := by
  cases move with
  | step id => exact note_earlier_step.trans asking.anew
  | start => exact eq_of_beq allowed
  | openSession =>
      rw [RotationLog.note]
      split
      · rename_i unopened
        exact asking.rotating.unopened (Option.isNone_iff_eq_none.mp unopened)
      · exact asking.anew
  | _ => exact asking.anew

theorem Asking.step_asked {request : Request} {point : CallerPoint} (asking : station.Asking log)
    (stepped : station.step? id = some after) (asks : after.asks? id = some (request, point)) :
    ∃ master pair, (log.note station (.step id) after).taken id = some (master, pair) ∧
      request.Asks master pair := by
  have later := asking_of_asks asks
  cases asking.rotating.orderly.tickMove stepped with
  | begins _ has _ turn rested goes =>
      cases asks.symm.trans goes
      obtain ⟨_, pair, _, next, rfl⟩ := Session.nextRequest?_eq_some turn
      exact ⟨_, pair, note_taken_begin has next (asking_of_rest rested) later,
        Session.requestTo_asks _ pair⟩
  | goesOn asked goes =>
      cases asks.symm.trans goes
      rw [note_goesOn (asking_of_asks asked) later]
      exact asking.asked id request _ asked
  | ends _ _ rests => cases asks.symm.trans rests
  | aside _ rests => cases asks.symm.trans rests

theorem Asking.move {move : Move capacity} (asking : station.Asking log)
    (allowed : ticksOneByOne station move = true) (moved : station.move? move = some after) :
    after.Asking (log.note station move after) := by
  have orderly := asking.rotating.orderly
  refine ⟨asking.rotating.move (ticksInOrder_of_oneByOne allowed) moved, asking.note_anew allowed,
    asking.holding.move orderly moved, asking.bearing.move orderly asking.holding moved, ?_⟩
  intro other request point asks
  by_cases own : move = .step other
  · subst own
    exact asking.step_asked moved asks
  · rw [note_taken_other own]
    exact asking.asked other request point (orderly.asks_unstepped moved own asks)

theorem Asking.run {moves : List (Move capacity)} (asking : station.Asking log)
    (ran : run? ticksOneByOne moves station = some after) :
    after.Asking (recordOf RotationLog.note moves log station) :=
  run?_invariant RotationLog.note (fun log station => station.Asking log)
    (fun _ _ _ _ asking allowed moved => asking.move allowed moved) moves log asking ran

theorem Asking.takes {session : Session capacity} (asking : station.Asking log)
    (opened : station.session = some session) (alone : station.ticking = 0)
    (stepped : station.step? id = some after) (before : station.asking id = false)
    (later : after.asking id = true) :
    ∃ pair, session.table.pairs[log.visited.length % session.table.size]? = some pair ∧
      after.asks? id = some (session.requestTo pair, .gate) ∧
      (log.note station (.step id) after).taken id = some (session.table.master, pair) := by
  obtain ⟨pair, found, next, asks⟩ := asking.rotating.asks opened alone stepped before later
  rw [asking.anew, Nat.add_zero] at found
  exact ⟨pair, found, asks, note_taken_begin opened next before later⟩

theorem tick_begins {session : Session capacity} (opened : station.session = some session)
    (pairs : 0 < session.table.size) (found : station.task? id = some (.tick .begin)) :
    ∃ after, station.step? id = some after ∧ after.asking id = true := by
  obtain ⟨request, turn⟩ := session.nextRequest?_of_pairs pairs
  have here : (station.setLinked ⟨station.link, session⟩).task? id = some (.tick .begin) := found
  have began : station.turn id (.tick .begin) =
      .next (station.setLinked ⟨station.link, session⟩) (.tick (.asking request .gate)) := by
    simp only [Station.turn, sessionTurn, opened, LinkedSession.tickStep, turn]
  simp only [step?, found, began, Option.some.injEq, exists_eq_left']
  rw [Station.asking, asks?, task?_replaceTask_self here]
  rfl

theorem Asking.transmits {write : Written} (asking : station.Asking log)
    (moved : station.move? (.step id) = some after) (under : station.asking id = true)
    (written : after.link.bus.written = write :: station.link.bus.written)
    (starts : write.startsTransmitter = true) :
    ∃ master pair buffer control frame message, log.taken id = some (master, pair) ∧
      station.link.Transmits master pair buffer control frame message := by
  obtain ⟨⟨request, point⟩, asks⟩ := Option.isSome_iff_exists.mp under
  obtain ⟨master, pair, taken, meant⟩ := asking.asked id request point asks
  have bears := asking.bearing id request point (call?_of_asks? asks)
  have writes : point.writing? = some write := by
    obtain ⟨task, found, own⟩ := asking.rotating.orderly.wrote moved written
    obtain ⟨same, present, asks⟩ := Option.bind_eq_some_iff.mp asks
    rw [found] at present
    cases present
    exact (Task.writing?_of_call? (Task.call?_of_asks? asks)).symm.trans own
  obtain ⟨data, makes, loaded⟩ := bears.loaded writes starts
  obtain ⟨buffer, control, frame, message, transmits⟩ :=
    Link.transmits_of_loaded meant makes loaded
  exact ⟨master, pair, buffer, control, frame, message, taken, transmits⟩

theorem round_of_count (count size round : Nat) :
    ((((List.range count).map (· % size)).drop (round * size)).take size) =
      (List.range size).take (count - round * size) := by
  apply List.ext_getElem
  · simp [Nat.min_comm]
  · intro place inside _
    have within : place < size := by
      rw [List.length_take] at inside
      omega
    have position : (round * size + place) % size = place := by
      rw [Nat.mul_add_mod_self_right, Nat.mod_eq_of_lt within]
    simp [position]

/-- While ticks run one by one, each asks the next pair of the table, whatever came of the
others, and a tick begins whenever there is a pair to ask. Since the session was made or
last started, every round of ticks has asked all pairs in the order of the table, the last
round as many as there were ticks. A frame that a tick starts to transmit is the request to
the pair that the tick has taken. -/
theorem ticks_ask_the_pairs_in_turn {opened station : Station slots size capacity}
    {moves : List (Move capacity)} (fresh : opened.Fresh)
    (ran : run? ticksOneByOne moves opened = some station) :
    let log := recordOf RotationLog.note moves {} opened
    (∀ session, station.session = some session →
      (∀ id after, station.ticking = 0 → station.move? (.step id) = some after →
        station.asking id = false → after.asking id = true →
          ∃ pair, session.table.pairs[log.visited.length % session.table.size]? = some pair ∧
            after.asks? id = some (session.requestTo pair, .gate) ∧
            (session.requestTo pair).Asks session.table.master pair ∧
            (log.note station (.step id) after).taken id = some (session.table.master, pair)) ∧
      (∀ id, 0 < session.table.size → station.task? id = some (.tick .begin) →
        ∃ after, station.move? (.step id) = some after ∧ after.asking id = true) ∧
      ∀ round,
        (log.visited.reverse.drop (round * session.table.size)).take session.table.size =
          (List.range session.table.size).take
            (log.visited.length - round * session.table.size)) ∧
    ∀ id after write, station.move? (.step id) = some after → station.asking id = true →
      after.link.bus.written = write :: station.link.bus.written →
      write.startsTransmitter = true →
        ∃ master pair buffer control frame message, log.taken id = some (master, pair) ∧
          station.link.Transmits master pair buffer control frame message := by
  have asking := (asking_of_fresh fresh).run ran
  refine ⟨?_, fun id after write moved under written starts =>
    asking.transmits moved under written starts⟩
  intro session opened
  refine ⟨?_, ?_, ?_⟩
  · intro id after alone moved before later
    obtain ⟨pair, found, asks, taken⟩ := asking.takes opened alone moved before later
    exact ⟨pair, found, asks, session.requestTo_asks pair, taken⟩
  · intro id pairs found
    exact tick_begins opened pairs found
  · intro round
    have visits := (asking.rotating.describes session opened).visits
    rw [asking.anew] at visits
    rw [visits]
    exact round_of_count _ _ round

def ticksAgain : List (Move 3) :=
  startsRanging ++ tickFails 1 ++ .submit 2 (.tick .begin) :: List.replicate 13 (.step 2)

/-- It transmits the request to the second pair, from node 1 to node 3. -/
theorem second_tick_transmits_second_pair :
    ∃ (opened station after : Station 2 127 3) (log : RotationLog) (write : Written),
      opened.Fresh ∧ run? ticksOneByOne ticksAgain opened = some station ∧
      log = recordOf RotationLog.note ticksAgain {} opened ∧
      station.move? (.step 2) = some after ∧ station.asking 2 = true ∧
      after.link.bus.written = write :: station.link.bus.written ∧
      write.startsTransmitter = true ∧
      ∃ buffer control frame message,
        station.link.Transmits 0 ⟨1, 3, none⟩ buffer control frame message ∧
        frame.payload = [0x11, 0, 0, 1, 0, 3, 0, 0, 0, 0, 0] ∧
        message = ⟨0x11, 0, 1, 3, 0⟩ := by
  have evaluated : (do
      let opened : Station 2 127 3 ← open? Device.unused {} .ranging
      let station ← run? ticksOneByOne ticksAgain opened
      let after ← station.move? (.step 2)
      let log := recordOf RotationLog.note ticksAgain {} opened
      let buffer ← lastTo Register.transmitBuffer station.link.bus.written
      let frame ← decodeFrame? buffer.data
      return (log.taken 2, station.asking 2,
        after.link.bus.written.head?.any Written.startsTransmitter,
        decide (after.link.bus.written.tail = station.link.bus.written), frame.payload)) =
      some (some (0, ⟨1, 3, none⟩), true, true, true,
        [0x11, 0, 0, 1, 0, 3, 0, 0, 0, 0, 0]) := by
    cbv
  obtain ⟨opened, isOpen, evaluated⟩ := Option.bind_eq_some_iff.mp evaluated
  obtain ⟨station, ran, evaluated⟩ := Option.bind_eq_some_iff.mp evaluated
  obtain ⟨after, moved, evaluated⟩ := Option.bind_eq_some_iff.mp evaluated
  obtain ⟨loaded, inBuffer, evaluated⟩ := Option.bind_eq_some_iff.mp evaluated
  obtain ⟨sent, isFrame, evaluated⟩ := Option.bind_eq_some_iff.mp evaluated
  have seen := Option.some.inj evaluated
  simp only [Prod.mk.injEq, decide_eq_true_eq] at seen
  obtain ⟨taken, under, starts, rest, payload⟩ := seen
  have fresh := fresh_of_open? isOpen
  obtain ⟨write, written, starts⟩ := exists_cons_of_tail starts rest
  obtain ⟨master, pair, buffer, control, frame, message, took, transmits⟩ :=
    (ticks_ask_the_pairs_in_turn fresh ran).2 2 after write moved under written starts
  rw [taken] at took
  cases took
  cases inBuffer.symm.trans transmits.loaded
  cases isFrame.symm.trans transmits.decoded
  have read := transmits.read
  rw [payload] at read
  have shown : message = ⟨0x11, 0, 1, 3, 0⟩ := (Prod.mk.inj (Except.ok.inj read)).1.symm
  exact ⟨opened, station, after, _, write, fresh, ran, rfl, moved, under, written, starts,
    _, control, _, message, transmits, payload, shown⟩

end Station

end UwbRadio
