import UwbRadio.Proofs.Bus.CarryOut
import UwbRadio.Proofs.Link.Progress
import UwbRadio.Proofs.Link.Request
import UwbRadio.Proofs.Link.Sparing

/-!
What goes on the air. A send makes its frame of its request, of the addresses of the device
and of the number that the counter has. When the transmitter is started the device holds this
frame as what it sends next, whatever its registers held before, and everything that is not
the frame's own is as it was. A send whose payload is too long gets no further than to
silence the radio.
-/

namespace UwbRadio

/-- The bytes that the device takes from the transmit buffer: as many as the transmit control
says, without the check sequence, which the device makes itself. -/
def RegisterFile.outgoing (file : RegisterFile) : Bytes :=
  file.read Register.transmitBuffer.index 0
    ((file.value Register.transmitControl &&& Bits.frameLength).toNat - checkSequenceLength)

def frameControlBits : UInt64 :=
  Bits.frameLength ||| Bits.rangingFrame ||| Bits.transmitOffset

/-- The device is set up to send the request with the number, and nothing else is changed. -/
structure OnAir (request : Request) (info : DeviceInfo) (number : UInt8)
    (prior file : RegisterFile) : Prop where
  frame : decodeFrame? file.outgoing =
    some { sequence := number, source := some info.shortAddress, payload := request.payload }
  pan : frameDestinationPan? file.outgoing = some info.panId
  destination : frameDestination? file.outgoing =
    some (request.destination.getD broadcastAddress)
  length : file.value Register.transmitControl &&& Bits.frameLength =
    UInt64.ofNat (request.payload.length + 15)
  ranging : file.value Register.transmitControl &&& Bits.rangingFrame =
    if request.ranging then Bits.rangingFrame else 0
  offset : file.value Register.transmitControl &&& Bits.transmitOffset = 0
  control : file.value Register.transmitControl &&& ~~~frameControlBits =
    prior.value Register.transmitControl &&& ~~~frameControlBits
  timeout : request.waitForResponse = true →
    file.value Register.receiveTimeout = request.responseTimeout.toUInt64 ∧
    (file.value Register.systemConfig &&& Bits.receiveTimeoutEnable =
      if request.responseTimeout = 0 then 0 else Bits.receiveTimeoutEnable) ∧
    file.value Register.systemConfig &&& ~~~Bits.receiveTimeoutEnable =
      prior.value Register.systemConfig &&& ~~~Bits.receiveTimeoutEnable

theorem frameLength_onAir (payload : Bytes) :
    frameLength payload + checkSequenceLength = payload.length + 15 := by
  have header : frameHeaderLength + linkTag.length + checkSequenceLength = 15 := rfl
  rw [frameLength]
  omega

namespace Request

def startBits (request : Request) : UInt64 :=
  Bits.transmitStart ||| if request.waitForResponse then Bits.waitForResponse else 0

theorem startBits_low (request : Request) :
    request.startBits &&& 0xffffffff = request.startBits := by
  rw [startBits]
  split <;> decide

def startAccess (request : Request) : Access :=
  .write Register.systemControl request.startBits

def header (request : Request) (info : DeviceInfo) (number : UInt8) : LinkHeader :=
  { sequence := number
    panId := info.panId
    source := info.shortAddress
    destination := request.destination }

/-- The frame of the request from a device with these addresses. -/
structure Encodes (request : Request) (info : DeviceInfo) (number : UInt8) (frame : Bytes) :
    Prop where
  bytes : frame = (request.header info number).frame request.payload
  fits : frame.length + checkSequenceLength ≤ maxFrameLength

theorem Encodes.length {request : Request} {info : DeviceInfo} {number : UInt8} {frame : Bytes}
    (encodes : request.Encodes info number frame) :
    frame.length + checkSequenceLength = request.payload.length + 15 := by
  rw [encodes.bytes, LinkHeader.frame_length, frameLength_onAir]

end Request

theorem startAccess_last (request : Request) (frame : Bytes) :
    (transmitAccesses request frame).getLast? = some request.startAccess := by
  rw [Request.startAccess, Request.startBits]
  cases waits : request.waitForResponse <;>
    simp [transmitAccesses, receiveTimeoutAccesses, waits]

/-! ### The registers after the start -/

theorem value_modified (file : RegisterFile) {register : Register}
    (start : register.subAddress = 0) (apart : register.index ≠ Register.systemStatus.index)
    (wide : register.width = 4) (keep set : UInt64) :
    ((Access.modify register keep set).apply file).value register =
      (file.value register &&& keep ||| set) &&& 0xffffffff := by
  rw [Access.apply, file.value_write start apart (Bytes.littleEndian_length _ _), wide]
  exact value_four_bytes register.index 0 _

theorem value_written_two (file : RegisterFile) {register : Register}
    (start : register.subAddress = 0) (apart : register.index ≠ Register.systemStatus.index)
    (wide : register.width = 2) (value : UInt16) :
    ((Access.write register value.toUInt64).apply file).value register = value.toUInt64 := by
  rw [Access.apply, file.value_write start apart (Bytes.littleEndian_length _ _), wide,
    Bytes.fromLittleEndian_littleEndian]
  have short : value.toUInt64.toNat % 256 ^ 2 = value.toUInt64.toNat := by
    rw [UInt16.toNat_toUInt64]
    exact Nat.mod_eq_of_lt value.toNat_lt
  rw [short, UInt64.ofNat_toNat]

theorem value_four (file : RegisterFile) {register : Register} (wide : register.width = 4) :
    file.value register &&& 0xffffffff = file.value register := by
  have bound := Bytes.fromLittleEndian_lt
    (file.read register.index register.subAddress.toNat register.width)
  rw [file.read_length, wide] at bound
  apply UInt64.toNat.inj
  have mask : (0xffffffff : UInt64).toNat = 2 ^ 32 - 1 := rfl
  rw [UInt64.toNat_and, mask, Nat.and_two_pow_sub_one_eq_mod, RegisterFile.value, wide,
    UInt64.toNat_ofNat', Nat.mod_eq_of_lt (Nat.lt_trans bound (by decide))]
  exact Nat.mod_eq_of_lt bound

theorem kept_bits {old keep set low mask : UInt64} (kept : keep &&& mask = mask)
    (own : set &&& mask = 0) (wide : old &&& low = old) :
    (old &&& keep ||| set) &&& low &&& mask = old &&& mask := by
  rw [UInt64.and_assoc, UInt64.and_comm low mask, ← UInt64.and_assoc, or_and_distrib, own,
    UInt64.or_zero, UInt64.and_assoc old, kept, UInt64.and_assoc, UInt64.and_comm mask low,
    ← UInt64.and_assoc, wide]

theorem set_bits (old set : UInt64) : (old ||| set) &&& set = set := by
  apply UInt64.toBitVec_inj.mp
  ext bit
  simpa using Or.inr

theorem controlBits_apart {request : Request} {frame : Bytes}
    (fits : frame.length + checkSequenceLength ≤ maxFrameLength) :
    controlBits request frame &&& ~~~frameControlBits = 0 := by
  have ranging :
      (if request.ranging then Bits.rangingFrame else 0) &&& ~~~frameControlBits = 0 := by
    split <;> decide
  rw [controlBits, or_and_distrib, length_apart (by decide) fits, ranging, UInt64.or_zero]

section applied

variable (request : Request) (frame : Bytes) (prior : RegisterFile)

theorem applied_buffer :
    (Access.applyAll (transmitAccesses request frame) prior).read Register.transmitBuffer.index 0
      frame.length = frame := by
  obtain ⟨rest, load, spares⟩ := transmitAccesses_load request frame
  rw [load]
  refine (Access.read_applyAll_other (fun access member => (spares access member).symm) _ _ _).trans
    ?_
  exact prior.read_write (by decide) frame

theorem applied_control :
    (Access.applyAll (transmitAccesses request frame) prior).value Register.transmitControl =
      (prior.value Register.transmitControl &&& ~~~frameControlBits |||
        controlBits request frame) &&& 0xffffffff := by
  have behind : ∀ access ∈ (transmitAccesses request frame).drop 2,
      Register.transmitControl.index ≠ access.register.index := by
    intro access member
    have timeout : Register.transmitControl.index ≠ Register.receiveTimeout.index := by decide
    have config : Register.transmitControl.index ≠ Register.systemConfig.index := by decide
    have start : Register.transmitControl.index ≠ Register.systemControl.index := by decide
    cases waits : request.waitForResponse with
    | false =>
        simp only [transmitAccesses, waits, List.drop_succ_cons, List.drop_zero,
          Bool.false_eq_true, if_false, List.mem_singleton] at member
        rw [member]
        exact start
    | true =>
        simp only [transmitAccesses, receiveTimeoutAccesses, waits, List.drop_succ_cons,
          List.drop_zero, if_true, List.cons_append, List.nil_append, List.mem_cons,
          List.not_mem_nil, or_false] at member
        rcases member with rfl | rfl | rfl
        · exact timeout
        · exact config
        · exact start
  have buffer : Register.transmitControl.index ≠ Register.transmitBuffer.index := by decide
  refine (Access.value_applyAll_other behind _).trans ?_
  refine (value_modified _ rfl (by decide) rfl _ _).trans ?_
  rw [Access.value_apply_other prior buffer]
  rfl

variable (waits : request.waitForResponse = true)
include waits

theorem applied_timeout :
    (Access.applyAll (transmitAccesses request frame) prior).value Register.receiveTimeout =
      request.responseTimeout.toUInt64 := by
  have config : Register.receiveTimeout.index ≠ Register.systemConfig.index := by decide
  have start : Register.receiveTimeout.index ≠ Register.systemControl.index := by decide
  simp only [transmitAccesses, receiveTimeoutAccesses, waits, if_true, List.cons_append,
    List.nil_append, Access.applyAll, List.foldl_cons, List.foldl_nil]
  rw [Access.value_apply_other _ start, Access.value_apply_other _ config]
  exact value_written_two _ rfl (by decide) rfl _

theorem applied_config :
    (Access.applyAll (transmitAccesses request frame) prior).value Register.systemConfig =
      (prior.value Register.systemConfig &&&
          (if request.responseTimeout = 0 then ~~~Bits.receiveTimeoutEnable else ~~~0) |||
        (if request.responseTimeout = 0 then 0 else Bits.receiveTimeoutEnable)) &&&
          0xffffffff := by
  have buffer : Register.systemConfig.index ≠ Register.transmitBuffer.index := by decide
  have control : Register.systemConfig.index ≠ Register.transmitControl.index := by decide
  have timeout : Register.systemConfig.index ≠ Register.receiveTimeout.index := by decide
  have start : Register.systemConfig.index ≠ Register.systemControl.index := by decide
  simp only [transmitAccesses, receiveTimeoutAccesses, waits, if_true, List.cons_append,
    List.nil_append, Access.applyAll, List.foldl_cons, List.foldl_nil]
  rw [Access.value_apply_other _ start, value_modified _ rfl (by decide) rfl,
    Access.value_apply_other _ timeout, transmitControlAccess,
    Access.value_apply_other _ control, Access.value_apply_other _ buffer]

end applied

/-- Once the accesses are carried out the frame is set up to be sent, whatever the registers
held before. -/
theorem onAir_of_applied {request : Request} {info : DeviceInfo} {number : UInt8} {frame : Bytes}
    {prior file : RegisterFile} (encodes : request.Encodes info number frame)
    (same : file.SameButEvents (Access.applyAll (transmitAccesses request frame) prior)) :
    OnAir request info number prior file := by
  have control := (same.value (by decide : Register.transmitControl.index ≠ _)).trans
    (applied_control request frame prior)
  obtain ⟨length, offset, ranging⟩ :=
    @modified_control request frame (prior.value Register.transmitControl) encodes.fits
  have measured : file.value Register.transmitControl &&& Bits.frameLength =
      UInt64.ofNat (request.payload.length + 15) := by
    rw [control, ← encodes.length]
    exact length
  have outgoing : file.outgoing = (request.header info number).frame request.payload := by
    have short : request.payload.length + 15 < 2 ^ 64 := by
      rw [← encodes.length]
      exact Nat.lt_of_le_of_lt encodes.fits (by decide)
    have number : (UInt64.ofNat (request.payload.length + 15)).toNat - checkSequenceLength =
        frame.length := by
      rw [UInt64.toNat_ofNat', Nat.mod_eq_of_lt short, ← encodes.length, Nat.add_sub_cancel]
    rw [RegisterFile.outgoing, measured, number, same.read (by decide), applied_buffer,
      encodes.bytes]
  have fits := encodes.fits
  rw [encodes.bytes] at fits
  refine ⟨?_, ?_, ?_, measured, ?_, ?_, ?_, ?_⟩
  · rw [outgoing]
    exact decodeFrame?_frame _ _ fits
  · rw [outgoing]
    exact frameDestinationPan?_frame _ _ fits
  · rw [outgoing]
    exact frameDestination?_frame _ _ fits
  · rw [control]
    exact ranging
  · rw [control]
    exact offset
  · rw [control]
    exact kept_bits (UInt64.and_self) (controlBits_apart encodes.fits) (value_four prior rfl)
  · intro waits
    have timeout := (same.value (by decide : Register.receiveTimeout.index ≠ _)).trans
      (applied_timeout request frame prior waits)
    have config := (same.value (by decide : Register.systemConfig.index ≠ _)).trans
      (applied_config request frame prior waits)
    refine ⟨timeout, ?_, ?_⟩
    · rw [config]
      have low : 0xffffffff &&& Bits.receiveTimeoutEnable = Bits.receiveTimeoutEnable := by decide
      rw [UInt64.and_assoc, low]
      by_cases never : request.responseTimeout = 0
      · rw [if_pos never, if_pos never, modified_bits (by decide), UInt64.zero_and]
      · rw [if_neg never, if_neg never]
        exact set_bits _ _
    · rw [config]
      apply kept_bits _ _ (value_four prior rfl)
      · split <;> decide
      · split <;> decide

namespace Link

variable {slots size : Nat} {link after : Link slots size} {exchange : Exchange} {request : Request}
  {id : TaskId} {point later : CallerPoint} {turn : CallerTurn slots size}

@[simp] theorem entered_info (link : Link slots size) (id : TaskId) :
    (link.entered id).info = link.info := by
  simp [entered, discardPhase]

@[simp] theorem failed_info (link : Link slots size) (error : Error BusFault) (counted : Bool) :
    (link.failed error counted).info = link.info := by
  unfold failed abort
  cases error with
  | transmitFault => exact releaseSlot?_info _ _
  | _ => rfl

@[simp] theorem conclude_info (link : Link slots size) (outcome : Outcome) (counted : Bool) :
    (link.conclude outcome counted).2.info = link.info := by
  cases outcome <;> rfl

@[simp] theorem abandon_info (link : Link slots size) : link.abandon.2.info = link.info := by
  unfold abandon
  split <;> rfl

theorem Preparation.info (prepared : Preparation link exchange turn) :
    turn.Leaves fun after => after.info = link.info := by
  cases prepared <;> rfl

theorem CallerTurns.info (turns : CallerTurns link id exchange point turn) :
    turn.Leaves fun after => after.info = link.info := by
  cases turns with
  | wait => trivial
  | silence => exact entered_info link id
  | enter free settled prepared =>
      exact prepared.info.mono fun after same => same.trans (entered_info link id)
  | silenced performed prepared => exact prepared.info
  | startFailed => exact failed_info _ _ _
  | checkFailed => exact failed_info _ _ _
  | cancelFailed => exact failed_info _ _ _
  | cancelled => exact failed_info _ _ _
  | finished => exact conclude_info _ _ _
  | abandoned => exact (conclude_info _ _ _).trans (abandon_info link)
  | _ => rfl

/-! ### The frame of a send -/

/-- Until it starts the hardware a send has the frame of its request with it. -/
def Frames (link : Link slots size) (request : Request) : CallerPoint → Prop
  | .reserving frame _ => request.Encodes link.info link.sequence frame
  | .startLock frame _ => request.Encodes link.info (link.sequence - 1) frame
  | _ => True

theorem encodes_of_encodeFrame {length : Nat} {buffer : Bytes}
    (encoded : (encodeFrame (List.replicate maxFrameLength 0) (link.nextHeader request.destination)
      request.payload : Except (Error BusFault) (Nat × Bytes)) = .ok (length, buffer)) :
    request.Encodes link.info link.sequence (buffer.take length) := by
  obtain ⟨bytes, fits⟩ := frame_of_encodeFrame encoded
  refine ⟨bytes, ?_⟩
  rw [bytes]
  exact fits

theorem Preparation.frames (prepared : Preparation link (.send request) (.next after later)) :
    after.Frames request later := by
  cases prepared with
  | receive receives => cases receives
  | reserve sends encoded =>
      cases sends
      exact encodes_of_encodeFrame encoded
  | begin sends encoded =>
      cases sends
      have encodes := encodes_of_encodeFrame encoded
      rw [← UInt8.add_sub_cancel link.sequence 1] at encodes
      exact encodes

theorem CallerTurns.frames
    (turns : CallerTurns link id (.send request) point (.next after later))
    (frames : link.Frames request point) : after.Frames request later := by
  cases turns with
  | enter free settled prepared => exact prepared.frames
  | silenced performed prepared => exact prepared.frames
  | @begin frame =>
      have encodes : request.Encodes link.info link.sequence frame := frames
      rw [← UInt8.add_sub_cancel link.sequence 1] at encodes
      exact encodes
  | reserving => exact frames
  | _ => trivial

theorem Frames.congr (frames : link.Frames request point) (info : after.info = link.info)
    (sequence : point ≠ .gate → after.sequence = link.sequence) : after.Frames request point := by
  cases point with
  | reserving frame deadline =>
      rw [Frames, info, sequence nofun]
      exact frames
  | startLock frame deadline =>
      rw [Frames, info, sequence nofun]
      exact frames
  | _ => trivial

/-- A send that has begun to start the hardware comes to these registers, and starts the
transmitter last. It does not begin anew. -/
def ComesTo (file : RegisterFile) (request : Request) (link : Link slots size) :
    CallerPoint → Prop
  | .startLock _ _ => False
  | .starting accesses _ =>
      (∀ access ∈ accesses, access.Plain) ∧
      (∀ access ∈ accesses, access.register ∈ startRegisters) ∧
      (Access.applyAll accesses link.bus.registers).SameButEvents file ∧
      accesses.getLast? = some request.startAccess
  | .checking _ => link.bus.registers.SameButEvents file ∧
      link.bus.written.head? = request.startAccess.written?
  | _ => True

theorem startAccess_written (request : Request) :
    request.startAccess.written? = some ⟨Register.systemControl.index, 0,
      Bytes.littleEndian Register.systemControl.width request.startBits.toNat⟩ :=
  Register.writing?_whole (by decide) rfl (by decide) _

theorem CallerTurns.takes_registers {frame : Bytes} {deadline : Deadline} {info : DeviceInfo}
    {number : UInt8}
    (turns : CallerTurns link id (.send request) (.startLock frame deadline) (.next after later))
    (encodes : request.Encodes info number frame) :
    after.ComesTo (Access.applyAll (transmitAccesses request frame) link.bus.registers) request
      later := by
  have fits : frame.length ≤ Register.transmitBuffer.width :=
    Nat.le_trans (Nat.le_of_add_right_le encodes.fits) (by decide)
  cases turns with
  | startLock =>
      exact ⟨(plain_transmitAccesses request fits).1,
        fun access => @Exchange.register_of_accesses (.send request) frame access,
        RegisterFile.sameButEvents_refl _, startAccess_last request frame⟩

theorem CallerTurns.comesTo {file : RegisterFile}
    (turns : CallerTurns link id (.send request) point (.next after later))
    (unopened : later.begun = true → point.begun = true)
    (comes : link.ComesTo file request point) : after.ComesTo file request later := by
  have whole : request.startAccess.Whole := Access.whole_write _ _
  have sent {accesses rest : List Access} {bus : Bus} {deadline : Deadline}
      (comes : link.ComesTo file request (.starting accesses deadline))
      (performed : (Access.advance accesses).perform link.bus = (.ok rest, bus)) :
      (Access.applyAll rest bus.registers).SameButEvents file ∧
        (rest = [] ∧ bus.written.head? = request.startAccess.written? ∨
          rest.getLast? = some request.startAccess) := by
    obtain ⟨plain, startOnly, same, last⟩ := comes
    rw [(Access.advance_apply plain performed).1]
    refine ⟨same, ?_⟩
    rcases Access.advance_last whole last performed with ⟨done, written⟩ | more
    · refine .inl ⟨done, ?_⟩
      rw [written, startAccess_written]
      rfl
    · exact .inr more
  cases turns with
  | startLock => exact comes.elim
  | startedSend performed =>
      obtain ⟨same, ⟨_, written⟩ | last⟩ := sent comes performed
      · exact ⟨same, written⟩
      · cases last
  | startedReceive performed receives => cases receives
  | starting performed more =>
      obtain ⟨same, ⟨none, _⟩ | last⟩ := sent comes performed
      · exact absurd none more
      · obtain ⟨plain, startOnly, _⟩ := comes
        exact ⟨(Access.advance_apply plain performed).2,
          Access.advance_registers startOnly performed, same, last⟩
  | begin => cases unopened rfl
  | enter free settled prepared =>
      cases prepared with
      | begin => cases unopened rfl
      | _ => trivial
  | silenced performed prepared =>
      cases prepared with
      | begin => cases unopened rfl
      | _ => trivial
  | _ => trivial

theorem ComesTo.congr {file : RegisterFile} (comes : link.ComesTo file request point)
    (spared : point.holdsRegisters = true →
      after.bus.registers.SameButEvents link.bus.registers ∧
        after.bus.written = link.bus.written) :
    after.ComesTo file request point := by
  cases point with
  | startLock => exact comes
  | starting accesses deadline =>
      obtain ⟨plain, startOnly, same, last⟩ := comes
      have elsewhere := fun access member =>
        startRegisters_elsewhere _ (startOnly access member)
      exact ⟨plain, startOnly,
        (Access.applyAll_sameButEvents elsewhere (spared rfl).1).trans same, last⟩
  | checking deadline =>
      obtain ⟨registers, written⟩ := spared rfl
      rw [ComesTo, written]
      exact ⟨registers.trans comes.1, comes.2⟩
  | _ => trivial

theorem CallerTurns.inTime {deadline due : Deadline}
    (turns : CallerTurns link id exchange (.checking deadline) (.next after (.waiting due))) :
    after.bus.registers = link.bus.registers ∧ after.bus.written = link.bus.written := by
  cases turns with
  | started performed =>
      have registers := Register.systemStatus.read_registers link.bus
      have written := Register.systemStatus.read_written link.bus
      rw [performed] at registers written
      exact ⟨registers, written⟩

def OnlySilences : CallerPoint → Prop
  | .gate | .silenceLock => True
  | .silencing accesses => accesses <:+ silenceAccesses
  | _ => False

theorem OnlySilences.writes (only : OnlySilences point) :
    ∀ write ∈ point.writing?,
      write.index ≠ Register.transmitBuffer.index ∧ write.startsTransmitter = false := by
  intro write writes
  cases point with
  | silencing accesses =>
      obtain ⟨access, first, written⟩ := Option.bind_eq_some_iff.mp writes
      have control := @Register.writing?_whole Register.systemControl (by decide) rfl (by decide)
      have status := @Register.writing?_whole Register.systemStatus (by decide) rfl (by decide)
      rcases List.mem_cons.mp (only.subset (List.mem_of_mem_head? first)) with rfl | last
      · rw [Access.written?, control] at written
        cases written
        exact ⟨by decide, by decide⟩
      · rw [List.mem_singleton.mp last, Access.written?, status] at written
        cases written
        exact ⟨by decide, by decide⟩
  | starting => exact only.elim
  | cancelling => exact only.elim
  | _ => cases writes

theorem silenceAccesses_whole : ∀ access ∈ silenceAccesses, access.Whole := by
  intro access member
  simp only [silenceAccesses, List.mem_cons, List.not_mem_nil, or_false] at member
  rcases member with rfl | rfl <;> exact Access.whole_write _ _

section tooLong

variable (tooLong : maxPayloadLength < request.payload.length)

include tooLong

theorem Preparation.refuses (prepared : Preparation link (.send request) turn) :
    turn = .done link.releaseGate (.error (.bufferTooSmall (request.payload.length + 15))) := by
  have refused := encodeFrame_tooLong BusFault (link.nextHeader request.destination) tooLong
  rw [frameLength_onAir] at refused
  cases prepared with
  | receive receives => cases receives
  | refused sends failed =>
      cases sends
      rw [refused] at failed
      cases failed
      rfl
  | reserve sends encoded =>
      cases sends
      rw [refused] at encoded
      cases encoded
  | begin sends encoded =>
      cases sends
      rw [refused] at encoded
      cases encoded

theorem CallerTurns.goes_on_silencing
    (turns : CallerTurns link id (.send request) point (.next after later))
    (only : OnlySilences point) : OnlySilences later ∧ after.sequence = link.sequence := by
  cases turns with
  | silence => exact ⟨trivial, entered_sequence link id⟩
  | enter free settled prepared => cases prepared.refuses tooLong
  | silenceLock => exact ⟨List.suffix_refl _, rfl⟩
  | silenced performed prepared => cases prepared.refuses tooLong
  | @silencing accesses rest bus performed more =>
      refine ⟨?_, rfl⟩
      rw [Access.advance_whole (fun access member => silenceAccesses_whole access
        (only.subset member)) performed]
      exact (List.tail_suffix accesses).trans only
  | _ => exact only.elim

theorem CallerTurns.refuses {result : Except (Error BusFault) Status}
    (turns : CallerTurns link id (.send request) point (.done after result))
    (only : OnlySilences point) :
    after.sequence = link.sequence ∧
      (result = .error (.bufferTooSmall (request.payload.length + 15)) ∨
        ∃ accesses fault bus, point = .silencing accesses ∧
          (Access.advance accesses).perform link.bus = (.error fault, bus) ∧
          result = .error (.bus fault)) := by
  cases turns with
  | enter free settled prepared =>
      cases prepared.refuses tooLong
      exact ⟨entered_sequence link id, .inl rfl⟩
  | silenceFailed performed => exact ⟨rfl, .inr ⟨_, _, _, rfl, performed, rfl⟩⟩
  | silenced performed prepared =>
      cases prepared.refuses tooLong
      exact ⟨rfl, .inl rfl⟩
  | _ => exact only.elim

end tooLong

/-- The radio is silent and the caller has the gate, or takes it: its next step makes the
frame. -/
def MakesFrame (link : Link slots size) : CallerPoint → Prop
  | .gate => link.gate.isFree = true ∧ link.phase.unfinished = false
  | .silencing accesses =>
      link.bus.stalled = false ∧
        ∃ bus, (Access.advance accesses).perform link.bus = (.ok [], bus)
  | _ => False

theorem MakesFrame.prepares (makes : link.MakesFrame point) (id : TaskId) (exchange : Exchange) :
    ∃ ready : Link slots size, ready.info = link.info ∧ ready.sequence = link.sequence ∧
      link.callerStep id exchange point = ready.prepare exchange := by
  cases point with
  | gate =>
      obtain ⟨free, settled⟩ := makes
      refine ⟨link.entered id, entered_info link id, entered_sequence link id, ?_⟩
      rw [callerStep, if_pos free, settled]
      rfl
  | silencing accesses =>
      obtain ⟨flows, bus, performed⟩ := makes
      refine ⟨{ link with bus }.releaseRegisters, rfl, rfl, ?_⟩
      rw [callerStep, flows, perform_eq, performed]
      rfl
  | _ => exact makes.elim

theorem MakesFrame.begins (makes : link.MakesFrame point) (id : TaskId)
    (fits : request.payload.length ≤ maxPayloadLength)
    (unanswered : request.waitForResponse = false) :
    ∃ after frame, request.Encodes link.info link.sequence frame ∧
      link.callerStep id (.send request) point =
        .next after (.startLock frame request.mode.deadline) := by
  obtain ⟨ready, info, sequence, step⟩ := makes.prepares id (.send request)
  obtain ⟨buffer, encoded⟩ :=
    encodeFrame_fits BusFault (ready.nextHeader request.destination) fits
  have encodes := encodes_of_encodeFrame encoded
  rw [info, sequence] at encodes
  refine ⟨ready.beginTransaction (.sending none) true, _, encodes, ?_⟩
  rw [step]
  simp only [prepare, encoded, unanswered]
  rfl

theorem MakesFrame.refuses (makes : link.MakesFrame point) (id : TaskId)
    (tooLong : maxPayloadLength < request.payload.length) :
    ∃ after, link.callerStep id (.send request) point =
      .done after (.error (.bufferTooSmall (request.payload.length + 15))) := by
  obtain ⟨ready, _, _, step⟩ := makes.prepares id (.send request)
  refine ⟨ready.releaseGate, ?_⟩
  rw [step, prepare_tooLong tooLong, frameLength_onAir]

theorem conclude_sized (link : Link slots size) (outcome : Outcome) (counted : Bool)
    (required : Nat) :
    (link.conclude outcome counted).1 ≠ .error (.bufferTooSmall required) := by
  cases outcome <;> nofun

theorem CallerTurns.makesFrame {exchange : Exchange} {required : Nat}
    {result : Except (Error BusFault) Status}
    (turns : CallerTurns link id exchange point (.done after result))
    (sized : result = .error (.bufferTooSmall required))
    (flows : ∀ accesses, point = .silencing accesses → link.bus.stalled = false) :
    link.MakesFrame point := by
  cases turns with
  | enter free settled => exact ⟨free, settled⟩
  | silenced performed => exact ⟨flows _ rfl, _, performed⟩
  | finished => exact absurd sized (conclude_sized _ _ _ _)
  | abandoned => exact absurd sized (conclude_sized _ _ _ _)
  | _ => cases sized

theorem makesFrame_of_refused {exchange : Exchange} {required : Nat}
    (stepped : link.callerStep id exchange point =
      .done after (.error (.bufferTooSmall required))) : link.MakesFrame point := by
  refine (callerTurns_of_eq stepped).makesFrame rfl ?_
  rintro accesses rfl
  refine Bool.eq_false_iff.mpr fun stalls => ?_
  rw [callerStep, if_pos stalls] at stepped
  cases stepped

end Link

end UwbRadio
