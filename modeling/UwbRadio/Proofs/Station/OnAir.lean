import UwbRadio.Proofs.Link.OnAir
import UwbRadio.Proofs.Station.Between
import UwbRadio.Proofs.Station.Request

/-!
What a station sends. A send whose start succeeds leaves the device set up to send just its
request, from the address of the device and with the number that the counter had, whoever
else is served in between and whatever the registers held when it took them. A send whose
payload is too long is refused once the radio is silent, and has then written nothing but what
silences it.
-/

namespace UwbRadio

theorem Effect.info {slots size : Nat} {link after : Link slots size} {id : TaskId}
    {task : Task} {next : Option Task} {given : Option Slot}
    (effect : Effect link id task after next given) : after.info = link.info := by
  cases effect.part with
  | call calls stepped => exact (Link.callerTurns_of_eq stepped).info
  | returned calls stepped => exact (Link.callerTurns_of_eq stepped).info
  | event stepped =>
      have spared : link.SparesCaller after := (Link.interruptTurns_of_eq stepped).sparesCaller
      exact spared.info
  | handled stepped =>
      have spared : link.SparesCaller after := (Link.interruptTurns_of_eq stepped).sparesCaller
      exact spared.info
  | aside noCall noEvent outside linkAfter => rw [linkAfter]

namespace Station

variable {slots size capacity : Nat} {station after : Station slots size capacity} {id : TaskId}
  {request : Request} {point : CallerPoint}

theorem Orderly.info {move : Move capacity} (orderly : station.Orderly)
    (moved : station.move? move = some after) : after.link.info = station.link.info := by
  cases orderly.happens moved with
  | step effect => exact effect.info
  | cancel linkAfter => rw [linkAfter]; rfl
  | call names outside quiet linkAfter => rw [linkAfter]
  | action noTask acted =>
      obtain ⟨bus, pool, queue, linkAfter⟩ := acted.frame
      rw [linkAfter]

/-- What every run keeps of the sends: until they start the hardware they have their frames
with them, and those whose payload is too long do nothing but silence the radio. -/
structure Framing (station : Station slots size capacity) : Prop where
  orderly : station.Orderly
  holding : station.Holding
  frames : ∀ id request point, station.call? id = some (.send request, point) →
    station.link.Frames request point
  silences : ∀ id request point, station.call? id = some (.send request, point) →
    maxPayloadLength < request.payload.length → Link.OnlySilences point

theorem framing_of_fresh (fresh : station.Fresh) : station.Framing := by
  have orderly := orderly_of_fresh fresh
  have holding := holding_of_fresh fresh
  obtain ⟨device, config, handler, link, _, rfl⟩ := fresh
  exact ⟨orderly, holding, nofun, nofun⟩

theorem Framing.move {move : Move capacity} (framing : station.Framing)
    (moved : station.move? move = some after) : after.Framing := by
  have orderly := framing.orderly
  refine ⟨orderly.move moved, framing.holding.move orderly moved, ?_, ?_⟩
  · intro id request point calls
    cases orderly.sees framing.holding moved calls with
    | waits atGate => rw [atGate]; trivial
    | steps mine before turns => exact turns.frames (framing.frames id request _ before)
    | stays _ before sequence bus =>
        exact (framing.frames id request point before).congr (orderly.info moved) sequence
  · intro id request point calls tooLong
    cases orderly.sees framing.holding moved calls with
    | waits atGate => rw [atGate]; trivial
    | steps mine before turns =>
        exact (turns.goes_on_silencing tooLong (framing.silences id request _ before tooLong)).1
    | stays _ before sequence bus => exact framing.silences id request point before tooLong

theorem Framing.run {rule : Rule slots size capacity} {moves : List (Move capacity)}
    (framing : station.Framing) (ran : run? rule moves station = some after) :
    after.Framing ∧ after.link.info = station.link.info :=
  run?_keeps (fun later => later.Framing ∧ later.link.info = station.link.info)
    (fun _ _ _ ⟨framing, same⟩ _ moved =>
      ⟨framing.move moved, (framing.orderly.info moved).trans same⟩)
    ⟨framing, rfl⟩ ran

/-- The device does nothing by itself but latch and clear events. -/
def onlyEvents : Rule slots size capacity
  | station, .disturb (.registers file) =>
      file.withoutEvents.blocks == station.link.bus.registers.withoutEvents.blocks
  | _, _ => true

def undisturbedStart : Rule slots size capacity :=
  fun station move => onlyEvents station move && opensNone station move

theorem Spared.sameButEvents {move : Move capacity} (spared : station.Spared after move)
    (allowed : onlyEvents station move = true) :
    after.link.bus.registers.SameButEvents station.link.bus.registers := by
  rcases spared with same | ⟨change, rfl, altered⟩
  · rw [same]
    exact RegisterFile.sameButEvents_refl _
  · rw [altered]
    cases change with
    | registers file => exact RegisterFile.sameButEvents_of_blocks (eq_of_beq allowed)
    | _ => exact RegisterFile.sameButEvents_refl _

/-- The start of a send goes to these registers. -/
structure Starting (file : RegisterFile) (id : TaskId) (request : Request)
    (station : Station slots size capacity) : Prop where
  orderly : station.Orderly
  holding : station.Holding
  comes : ∀ point, station.call? id = some (.send request, point) →
    station.link.ComesTo file request point

theorem Starting.move {file : RegisterFile} {move : Move capacity}
    (starting : station.Starting file id request)
    (allowed : undisturbedStart station move = true)
    (moved : station.move? move = some after) : after.Starting file id request := by
  obtain ⟨quiet, unopened⟩ := Bool.and_eq_true_iff.mp allowed
  have orderly := starting.orderly
  refine ⟨orderly.move moved, starting.holding.move orderly moved, ?_⟩
  intro point calls
  cases orderly.sees starting.holding moved calls with
  | waits atGate => rw [atGate]; trivial
  | steps mine before turns =>
      subst mine
      exact turns.comesTo (begun_of_opensNone unopened moved before calls)
        (starting.comes _ before)
  | stays _ before sequence bus =>
      exact (starting.comes point before).congr fun holds =>
        ⟨(bus holds).sameButEvents quiet, (bus holds).written⟩

/-- The next step of a send whose payload is too long: it writes nothing that could be sent,
leaves the counter, and if it is the last one the send is refused, unless the radio could not
be silenced. With the radio silent it is the last one. -/
structure Refused (station : Station slots size capacity) (id : TaskId) (request : Request)
    (point : CallerPoint) : Prop where
  unsent : ∀ after, station.step? id = some after →
    ∀ write ∈ station.wrote after,
      write.index ≠ Register.transmitBuffer.index ∧ write.startsTransmitter = false
  sequence : ∀ after, station.step? id = some after →
    after.link.sequence = station.link.sequence
  result : ∀ result, station.returns? id = some (.send request, result) →
    result = .error (.bufferTooSmall (request.payload.length + 15)) ∨
      ∃ accesses fault bus, point = .silencing accesses ∧
        (Access.advance accesses).perform station.link.bus = (.error fault, bus) ∧
        result = .error (.bus fault)
  settled : point = .gate → station.link.gate.isFree = true →
    station.link.phase.unfinished = false →
      station.returns? id =
        some (.send request, .error (.bufferTooSmall (request.payload.length + 15)))
  silenced : ∀ accesses bus, point = .silencing accesses → station.link.bus.stalled = false →
    (Access.advance accesses).perform station.link.bus = (.ok [], bus) →
      station.returns? id =
        some (.send request, .error (.bufferTooSmall (request.payload.length + 15)))

theorem Framing.refuses (framing : station.Framing)
    (calls : station.call? id = some (.send request, point))
    (tooLong : maxPayloadLength < request.payload.length) :
    station.Refused id request point := by
  have only := framing.silences id request point calls tooLong
  refine ⟨?_, ?_, ?_, ?_, ?_⟩
  · intro after stepped write wrote
    have moved : station.move? (.step id) = some after := stepped
    rcases framing.orderly.writes moved with same | ⟨mover, task, mine, found, written⟩
    · have none : station.wrote after = [] := wrote_eq same
      rw [none] at wrote
      cases wrote
    · cases mine
      rw [wrote_eq written, Option.mem_toList,
        Task.writing?_of_call? ((call?_of_task found).symm.trans calls)] at wrote
      exact only.writes write wrote
  · intro after stepped
    rcases framing.orderly.caller_steps calls stepped with ⟨later, turned⟩ | ⟨result, turned⟩
    · exact ((Link.callerTurns_of_eq turned).goes_on_silencing tooLong only).2
    · exact ((Link.callerTurns_of_eq turned).refuses tooLong only).1
  · intro result returns
    rw [returns?, calls, Option.bind_some] at returns
    split at returns
    · rename_i after result turned
      cases returns
      exact ((Link.callerTurns_of_eq turned).refuses tooLong only).2
    · cases returns
  · rintro rfl free settled
    have makes : station.link.MakesFrame .gate := ⟨free, settled⟩
    obtain ⟨after, refused⟩ := makes.refuses id tooLong
    exact returns?_of_done calls refused
  · rintro accesses bus rfl flows performed
    have makes : station.link.MakesFrame (.silencing accesses) := ⟨flows, bus, performed⟩
    obtain ⟨after, refused⟩ := makes.refuses id tooLong
    exact returns?_of_done calls refused

/-- A send whose start succeeds has set up the device to send its request, with the addresses
of the device and the number at which its transaction began, and has started the transmitter
with its last write. Until it holds the registers anything may be done to them; from then on
the device does nothing by itself but latch events. A send whose payload is too long is
refused. -/
theorem started_send_is_on_air {opened preparing : Station slots size capacity}
    {rule : Rule slots size capacity} {earlier : List (Move capacity)} {id : TaskId}
    {request : Request} (fresh : opened.Fresh)
    (reached : run? rule earlier opened = some preparing) :
    (∀ {begun locking started checked onAir : Station slots size capacity}
      {waiting loading : List (Move capacity)} {point : CallerPoint} {frame : Bytes}
      {deadline due later : Deadline},
      preparing.begun id = false → preparing.step? id = some begun →
      begun.call? id = some (.send request, point) → point.begun = true →
      run? opensNone waiting begun = some locking →
      locking.call? id = some (.send request, .startLock frame deadline) →
      locking.step? id = some started →
      run? undisturbedStart loading started = some checked →
      checked.call? id = some (.send request, .checking due) →
      checked.step? id = some onAir →
      onAir.call? id = some (.send request, .waiting later) →
      OnAir request preparing.link.info preparing.link.sequence locking.link.bus.registers
          onAir.link.bus.registers ∧
        ∃ start, onAir.link.bus.written.head? = some start ∧
          start.goesTo Register.systemControl = true ∧
          start.value = Bits.transmitStart |||
            if request.waitForResponse then Bits.waitForResponse else 0) ∧
    (maxPayloadLength < request.payload.length → ∀ point,
      preparing.call? id = some (.send request, point) →
      preparing.Refused id request point) := by
  have framing := ((framing_of_fresh fresh).run reached).1
  refine ⟨?_, fun tooLong point calls => framing.refuses calls tooLong⟩
  intro begun locking started checked onAir waiting loading point frame deadline due later
    unbegun begins asks begunAt waited locks takes loaded checks passes goesOn
  have beginning : preparing.move? (.step id) = some begun := begins
  have running : locking.Running preparing.link.sequence id (.send request) :=
    run?_keeps (Running preparing.link.sequence id (.send request))
      (fun _ _ _ running allowed moved => running.move allowed moved)
      (framing.orderly.running unbegun begins asks begunAt) waited
  obtain ⟨framed, info⟩ := (framing.move beginning).run waited
  have encodes : request.Encodes preparing.link.info preparing.link.sequence frame := by
    have encodes : request.Encodes locking.link.info (locking.link.sequence - 1) frame :=
      framed.frames id request _ locks
    have counted : locking.link.sequence = preparing.link.sequence + 1 :=
      (running.alone id _ _ locks rfl).2.2
    rw [counted, UInt8.add_sub_cancel, info, framing.orderly.info beginning] at encodes
    exact encodes
  have taking : locking.move? (.step id) = some started := takes
  have starting : started.Starting
      (Access.applyAll (transmitAccesses request frame) locking.link.bus.registers) id request := by
    refine ⟨framed.orderly.move taking, framed.holding.move framed.orderly taking, ?_⟩
    intro at_ calls
    cases framed.orderly.sees framed.holding taking calls with
    | waits atGate => rw [atGate]; trivial
    | steps mine before turns =>
        rw [locks] at before
        cases before
        exact turns.takes_registers encodes
    | stays unmoved => exact absurd rfl unmoved
  have ready := run?_keeps (Starting _ id request)
    (fun _ _ _ starting allowed moved => starting.move allowed moved) starting loaded
  obtain ⟨same, written⟩ := ready.comes _ checks
  have passing : checked.move? (.step id) = some onAir := passes
  have kept : onAir.link.bus.registers = checked.link.bus.registers ∧
      onAir.link.bus.written = checked.link.bus.written := by
    cases ready.orderly.sees ready.holding passing goesOn with
    | waits atGate => cases atGate
    | steps mine before turns =>
        rw [checks] at before
        cases before
        exact turns.inTime
    | stays unmoved => exact absurd rfl unmoved
  constructor
  · rw [kept.1]
    exact onAir_of_applied encodes same
  · have first := (congrArg List.head? kept.2).trans written
    rw [Link.startAccess_written] at first
    exact ⟨_, first, rfl, (value_four_bytes _ _ _).trans request.startBits_low⟩

def answeredRanging : Request :=
  ((Request.ofPayload [0x68, 0x69]).expectResponse 500).asRanging

def oversized : Request := Request.ofPayload (List.replicate 113 0x2a)

def comesToBuffer : List (Move 0) := [.submit 1 (.send answeredRanging), .step 1]

def fillsControl : List (Move 0) :=
  [.disturb (.registers (RegisterFile.powerUp.store Register.transmitControl.index 0
    (List.replicate 4 0xff)))]

def startsSlowly : List (Move 0) :=
  List.replicate 3 (.step 1) ++ .disturb (.pass 1) :: List.replicate 4 (.step 1)

theorem ranging_send_is_on_air :
    ∃ opened preparing begun locking started checked onAir refusing : Station 2 127 0,
      opened.Fresh ∧ run? (fun _ _ => true) comesToBuffer opened = some preparing ∧
      preparing.begun 1 = false ∧ preparing.step? 1 = some begun ∧ begun.begun 1 = true ∧
      run? opensNone fillsControl begun = some locking ∧ locking.step? 1 = some started ∧
      run? undisturbedStart startsSlowly started = some checked ∧
      checked.step? 1 = some onAir ∧
      onAir.call? 1 = some (.send answeredRanging, .waiting .never) ∧
      OnAir answeredRanging preparing.link.info preparing.link.sequence
        locking.link.bus.registers onAir.link.bus.registers ∧
      run? (fun _ _ => true) [.submit 2 (.send oversized)] opened = some refusing ∧
      refusing.call? 2 = some (.send oversized, .gate) ∧
      refusing.returns? 2 = some (.send oversized, .error (.bufferTooSmall 128)) := by
  let frame : Bytes :=
    [0x41, 0x98, 0, 0, 0, 0xff, 0xff, 0, 0, 0x4c, 0x57, 0x49, 0x50, 0x68, 0x69]
  have evaluated : (do
      let opened : Station 2 127 0 ← open? Device.unused {} .transfer
      let preparing ← run? (fun _ _ => true) comesToBuffer opened
      let begun ← preparing.step? 1
      let locking ← run? opensNone fillsControl begun
      let started ← locking.step? 1
      let checked ← run? undisturbedStart startsSlowly started
      let onAir ← checked.step? 1
      let refusing ← run? (fun _ _ => true) [.submit 2 (.send oversized)] opened
      return (preparing.begun 1, begun.call? 1, locking.call? 1, checked.call? 1, onAir.call? 1,
        refusing.call? 2, refusing.link.gate.isFree, refusing.link.phase.unfinished)) =
      some (false,
        some (.send answeredRanging, .startLock frame .never),
        some (.send answeredRanging, .startLock frame .never),
        some (.send answeredRanging, .checking .never),
        some (.send answeredRanging, .waiting .never),
        some (.send oversized, .gate), true, false) := by
    cbv
  obtain ⟨opened, isOpen, evaluated⟩ := Option.bind_eq_some_iff.mp evaluated
  obtain ⟨preparing, reached, evaluated⟩ := Option.bind_eq_some_iff.mp evaluated
  obtain ⟨begun, begins, evaluated⟩ := Option.bind_eq_some_iff.mp evaluated
  obtain ⟨locking, waited, evaluated⟩ := Option.bind_eq_some_iff.mp evaluated
  obtain ⟨started, takes, evaluated⟩ := Option.bind_eq_some_iff.mp evaluated
  obtain ⟨checked, loaded, evaluated⟩ := Option.bind_eq_some_iff.mp evaluated
  obtain ⟨onAir, passes, evaluated⟩ := Option.bind_eq_some_iff.mp evaluated
  obtain ⟨refusing, submitted, evaluated⟩ := Option.bind_eq_some_iff.mp evaluated
  have seen := Option.some.inj evaluated
  simp only [Prod.mk.injEq] at seen
  obtain ⟨unbegun, asks, locks, checks, goesOn, waits, free, settled⟩ := seen
  have fresh := fresh_of_open? isOpen
  refine ⟨opened, preparing, begun, locking, started, checked, onAir, refusing, fresh, reached,
    unbegun, begins, begun_of_call asks, waited, takes, loaded, passes, goesOn, ?_, submitted,
    waits, ?_⟩
  · exact ((started_send_is_on_air fresh reached).1 unbegun begins asks rfl waited locks takes
      loaded checks passes goesOn).1
  · have refused := (started_send_is_on_air fresh submitted).2 (by decide) .gate waits
    exact refused.settled rfl free settled

end Station

end UwbRadio
