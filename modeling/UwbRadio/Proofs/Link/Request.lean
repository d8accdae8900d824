import UwbRadio.Proofs.Bus.Starts
import UwbRadio.Proofs.Link.Locks
import UwbRadio.Proofs.Link.Sequence

/-!
The frame of a send. A send makes its frame of its request and of the number that the
counter has, and starts the transmitter only when this frame is in the transmit buffer and
the transmit control speaks of it: its length with the check sequence, no offset, and the
ranging bit if the request is a ranging one. It starts the transmitter at most once.
-/

namespace UwbRadio

/-- A frame of the request with the number, short enough for the air. -/
structure Request.Makes (request : Request) (number : UInt8) (frame : Bytes) : Prop where
  encoded : ∃ header : LinkHeader, header.sequence = number ∧
    header.destination = request.destination ∧ frame = header.frame request.payload
  fits : frame.length + checkSequenceLength ≤ maxFrameLength

theorem makes_of_encodeFrame {fault : Type} {request : Request} {header : LinkHeader}
    {length : Nat} {buffer : Bytes} (meant : header.destination = request.destination)
    (encoded : (encodeFrame (List.replicate maxFrameLength 0) header request.payload :
      Except (Error fault) (Nat × Bytes)) = .ok (length, buffer)) :
    request.Makes header.sequence (buffer.take length) := by
  obtain ⟨same, fits⟩ := frame_of_encodeFrame encoded
  rw [same]
  exact ⟨⟨header, rfl, meant, rfl⟩, fits⟩

/-- What the device transmits now is the frame. -/
structure Loaded (request : Request) (frame : Bytes) (written : List Written) : Prop where
  buffer : ∃ write, lastTo Register.transmitBuffer written = some write ∧ write.data = frame
  control : ∃ write, lastTo Register.transmitControl written = some write ∧
    write.value &&& Bits.frameLength = UInt64.ofNat (frame.length + checkSequenceLength) ∧
    write.value &&& Bits.transmitOffset = 0 ∧
    write.value &&& Bits.rangingFrame = if request.ranging then Bits.rangingFrame else 0

theorem or_and_distrib (first second mask : UInt64) :
    (first ||| second) &&& mask = first &&& mask ||| second &&& mask :=
  UInt64.toBitVec_inj.mp BitVec.and_or_distrib_right

theorem value_four_bytes (index : UInt8) (subAddress : UInt16) (value : UInt64) :
    Written.value ⟨index, subAddress, Bytes.littleEndian 4 value.toNat⟩ =
      value &&& 0xffffffff := by
  apply UInt64.toNat.inj
  have low : value.toNat % 2 ^ 32 < 2 ^ 64 := by omega
  have mask : (0xffffffff : UInt64).toNat = 2 ^ 32 - 1 := rfl
  rw [Written.value, Bytes.fromLittleEndian_littleEndian, UInt64.toNat_and, mask,
    Nat.and_two_pow_sub_one_eq_mod]
  exact Nat.mod_eq_of_lt low

theorem modified_bits {old keep set mask : UInt64} (cleared : keep &&& mask = 0) :
    (old &&& keep ||| set) &&& mask = set &&& mask := by
  rw [or_and_distrib, UInt64.and_assoc, cleared, UInt64.and_zero, UInt64.zero_or]

section control

variable {request : Request} {frame : Bytes}

def controlBits (request : Request) (frame : Bytes) : UInt64 :=
  UInt64.ofNat (frame.length + checkSequenceLength) |||
    if request.ranging then Bits.rangingFrame else 0

theorem length_bits (fits : frame.length + checkSequenceLength ≤ maxFrameLength) :
    UInt64.ofNat (frame.length + checkSequenceLength) &&& Bits.frameLength =
      UInt64.ofNat (frame.length + checkSequenceLength) := by
  have short : frame.length + checkSequenceLength < 2 ^ 10 := Nat.lt_of_le_of_lt fits (by decide)
  generalize frame.length + checkSequenceLength = length at short
  have mask : Bits.frameLength = UInt64.ofNat (2 ^ 10 - 1) := by decide
  rw [mask, ← UInt64.ofNat_and, Nat.and_two_pow_sub_one_eq_mod, Nat.mod_eq_of_lt short]

theorem length_apart {mask : UInt64} (apart : Bits.frameLength &&& mask = 0)
    (fits : frame.length + checkSequenceLength ≤ maxFrameLength) :
    UInt64.ofNat (frame.length + checkSequenceLength) &&& mask = 0 := by
  rw [← length_bits fits, UInt64.and_assoc, apart, UInt64.and_zero]

theorem controlBits_length (fits : frame.length + checkSequenceLength ≤ maxFrameLength) :
    controlBits request frame &&& Bits.frameLength =
      UInt64.ofNat (frame.length + checkSequenceLength) := by
  have apart : (if request.ranging then Bits.rangingFrame else 0) &&& Bits.frameLength = 0 := by
    split <;> decide
  rw [controlBits, or_and_distrib, length_bits fits, apart, UInt64.or_zero]

theorem controlBits_offset (fits : frame.length + checkSequenceLength ≤ maxFrameLength) :
    controlBits request frame &&& Bits.transmitOffset = 0 := by
  have apart : (if request.ranging then Bits.rangingFrame else 0) &&& Bits.transmitOffset = 0 := by
    split <;> decide
  rw [controlBits, or_and_distrib, length_apart (by decide) fits, apart, UInt64.or_zero]

theorem controlBits_ranging (fits : frame.length + checkSequenceLength ≤ maxFrameLength) :
    controlBits request frame &&& Bits.rangingFrame =
      if request.ranging then Bits.rangingFrame else 0 := by
  have own : (if request.ranging then Bits.rangingFrame else 0) &&& Bits.rangingFrame =
      if request.ranging then Bits.rangingFrame else 0 := by
    split <;> decide
  rw [controlBits, or_and_distrib, length_apart (by decide) fits, own, UInt64.zero_or]

theorem modified_control (old : UInt64)
    (fits : frame.length + checkSequenceLength ≤ maxFrameLength) :
    let value := (old &&& ~~~(Bits.frameLength ||| Bits.rangingFrame ||| Bits.transmitOffset) |||
      controlBits request frame) &&& 0xffffffff
    value &&& Bits.frameLength = UInt64.ofNat (frame.length + checkSequenceLength) ∧
      value &&& Bits.transmitOffset = 0 ∧
      value &&& Bits.rangingFrame = if request.ranging then Bits.rangingFrame else 0 := by
  have bits {mask : UInt64}
      (cleared : ~~~(Bits.frameLength ||| Bits.rangingFrame ||| Bits.transmitOffset) &&& mask = 0)
      (low : 0xffffffff &&& mask = mask) :
      (old &&& ~~~(Bits.frameLength ||| Bits.rangingFrame ||| Bits.transmitOffset) |||
        controlBits request frame) &&& 0xffffffff &&& mask = controlBits request frame &&& mask := by
    rw [UInt64.and_assoc, low, modified_bits cleared]
  refine ⟨?_, ?_, ?_⟩
  · exact (bits (by decide) (by decide)).trans (controlBits_length fits)
  · exact (bits (by decide) (by decide)).trans (controlBits_offset fits)
  · exact (bits (by decide) (by decide)).trans (controlBits_ranging fits)

end control

/-- The frame is in the buffer and the transmit control is its own, over whatever the
register held before. -/
theorem loaded_of_writes {request : Request} {frame : Bytes} {written : List Written} {old : UInt64}
    (fits : frame.length + checkSequenceLength ≤ maxFrameLength)
    (loaded : lastTo Register.transmitBuffer written =
      some ⟨Register.transmitBuffer.index, 0, frame⟩)
    (set : lastTo Register.transmitControl written =
      some ⟨Register.transmitControl.index, 0, Bytes.littleEndian Register.transmitControl.width
        (old &&& ~~~(Bits.frameLength ||| Bits.rangingFrame ||| Bits.transmitOffset) |||
          controlBits request frame).toNat⟩) :
    Loaded request frame written := by
  have wide : Register.transmitControl.width = 4 := rfl
  refine ⟨⟨_, loaded, rfl⟩, _, set, ?_⟩
  rw [wide, value_four_bytes]
  exact modified_control old fits

theorem transmitAccesses_ready {request : Request} {frame : Bytes} (written : List Written)
    (fits : frame.length + checkSequenceLength ≤ maxFrameLength) :
    StartsReady (Loaded request frame) (transmitAccesses request frame) written := by
  have short : frame.length ≤ maxSubAddress := by
    have limits : maxFrameLength ≤ maxSubAddress := by decide
    omega
  have buffer : (Access.load Register.transmitBuffer frame).written? =
      some ⟨Register.transmitBuffer.index, 0, frame⟩ :=
    writing?_start _ frame (by decide) short
  have control := @Register.writing?_whole Register.transmitControl (by decide) rfl (by decide)
  have timeout := @Register.writing?_whole Register.receiveTimeout (by decide) rfl (by decide)
  have config := @Register.writing?_whole Register.systemConfig (by decide) rfl (by decide)
  rintro _ rfl
  rw [buffer]
  refine ⟨fun starts => absurd starts Bool.false_ne_true, ?_⟩
  rintro _ ⟨old, rfl⟩
  rw [control]
  refine ⟨fun starts => absurd starts Bool.false_ne_true, ?_⟩
  split
  · rintro _ rfl
    rw [Access.written?, timeout]
    refine ⟨fun starts => absurd starts Bool.false_ne_true, ?_⟩
    rintro _ ⟨earlier, rfl⟩
    rw [config]
    refine ⟨fun starts => absurd starts Bool.false_ne_true, ?_⟩
    rintro _ rfl
    exact ⟨fun _ => loaded_of_writes fits rfl rfl, trivial⟩
  · rintro _ rfl
    exact ⟨fun _ => loaded_of_writes fits rfl rfl, trivial⟩

def neverReady : List Written → Prop := fun _ => False

theorem switchOff_ready (events : UInt64) (written : List Written) :
    StartsReady neverReady [.write Register.systemControl Bits.transceiverOff,
      .write Register.systemStatus events] written := by
  have control := @Register.writing?_whole Register.systemControl (by decide) rfl (by decide)
  have status := @Register.writing?_whole Register.systemStatus (by decide) rfl (by decide)
  rintro _ rfl
  rw [Access.written?, control]
  refine ⟨fun starts => absurd starts (by decide), ?_⟩
  rintro _ rfl
  rw [Access.written?, status]
  exact ⟨fun starts => absurd starts Bool.false_ne_true, trivial⟩

namespace Link

variable {slots size : Nat} {link after : Link slots size} {request : Request} {id : TaskId}
  {point later : CallerPoint}

def Bears (link : Link slots size) (request : Request) : CallerPoint → Prop
  | .gate | .silenceLock | .checking _ | .waiting _ => True
  | .silencing accesses | .cancelling accesses =>
      StartsReady neverReady accesses link.bus.written
  | .reserving frame _ => request.Makes link.sequence frame
  | .startLock frame _ => request.Makes (link.sequence - 1) frame
  | .starting accesses _ => ∃ frame, request.Makes (link.sequence - 1) frame ∧
      StartsReady (Loaded request frame) accesses link.bus.written

theorem Preparation.bears
    (prepared : Preparation link (.send request) (.next after later)) :
    after.Bears request later := by
  cases prepared with
  | receive receives => cases receives
  | reserve sends encoded =>
      cases sends
      exact makes_of_encodeFrame rfl encoded
  | begin sends encoded =>
      cases sends
      have counted : (link.beginTransaction (.sending none) true).sequence - 1 = link.sequence :=
        UInt8.add_sub_cancel link.sequence 1
      have makes := makes_of_encodeFrame rfl encoded
      rw [Bears, counted]
      exact makes

theorem CallerTurns.bears (turns : CallerTurns link id (.send request) point (.next after later))
    (bears : link.Bears request point) : after.Bears request later := by
  cases turns with
  | silence => trivial
  | enter free settled prepared => exact prepared.bears
  | silenceLock => exact switchOff_ready _ _
  | silenced performed prepared => exact prepared.bears
  | silencing performed => exact StartsReady.advance bears performed
  | @begin frame =>
      have makes : request.Makes (link.sequence + 1 - 1) frame := by
        rw [UInt8.add_sub_cancel]
        exact bears
      exact makes
  | reserving => exact bears
  | startLock => exact ⟨_, bears, transmitAccesses_ready _ bears.fits⟩
  | startedSend => trivial
  | startedReceive performed receives => cases receives
  | starting performed =>
      obtain ⟨frame, makes, ready⟩ := bears
      exact ⟨frame, makes, ready.advance performed⟩
  | started => trivial
  | late => exact switchOff_ready _ _
  | cancelling performed => exact StartsReady.advance bears performed
  | woken => trivial
  | waiting => trivial

theorem Bears.loaded {write : Written} (bears : link.Bears request point)
    (writes : point.writing? = some write) (starts : write.startsTransmitter = true) :
    ∃ frame, request.Makes (link.sequence - 1) frame ∧ Loaded request frame link.bus.written := by
  cases point with
  | silencing accesses => exact (StartsReady.ready_of_start bears writes starts).elim
  | cancelling accesses => exact (StartsReady.ready_of_start bears writes starts).elim
  | starting accesses deadline =>
      obtain ⟨frame, makes, ready⟩ := bears
      exact ⟨frame, makes, ready.ready_of_start writes starts⟩
  | _ => cases writes

theorem Bears.congr (bears : link.Bears request point)
    (sequence : point ≠ .gate → after.sequence = link.sequence)
    (written : point.holdsRegisters = true → after.bus.written = link.bus.written) :
    after.Bears request point := by
  cases point with
  | silencing accesses =>
      rw [Bears, written rfl]
      exact bears
  | cancelling accesses =>
      rw [Bears, written rfl]
      exact bears
  | reserving frame deadline =>
      rw [Bears, sequence nofun]
      exact bears
  | startLock frame deadline =>
      rw [Bears, sequence nofun]
      exact bears
  | starting accesses deadline =>
      rw [Bears, sequence nofun, written rfl]
      exact bears
  | _ => trivial

end Link

namespace Access

def mayStart (access : Access) : Bool :=
  match access with
  | .modify register _ _ => register.index == Register.systemControl.index
  | access => access.written?.any Written.startsTransmitter

theorem control_of_start {access : Access} {write : Written} (writes : access.written? = some write)
    (starts : write.startsTransmitter = true) :
    access.register.index = Register.systemControl.index := by
  have index : write.index = Register.systemControl.index := by
    simp only [Written.startsTransmitter, Written.goesTo, Bool.and_eq_true, beq_iff_eq] at starts
    exact starts.1.1
  exact (index_of_written? writes).symm.trans index

theorem mayStart_other {access : Access}
    (other : access.register.index ≠ Register.systemControl.index) : access.mayStart = false := by
  have silent : access.written?.any Written.startsTransmitter = false := by
    apply Bool.eq_false_iff.mpr
    intro starts
    obtain ⟨write, writes, starts⟩ := (Option.any_eq_true _ _).mp starts
    exact other (control_of_start writes starts)
  cases access with
  | modify register keep set => exact beq_eq_false_iff_ne.mpr other
  | _ => exact silent

/-- How often the accesses may start the transmitter. -/
def startsLeft (accesses : List Access) : Nat :=
  (accesses.map fun access => access.mayStart.toNat).sum

theorem Remains.starts {access : Access} {remaining : Option Access}
    (remains : access.Remains remaining) :
    (access.written?.any Written.startsTransmitter).toNat + startsLeft remaining.toList ≤
      access.mayStart.toNat := by
  cases remains with
  | written => exact Nat.le_refl _
  | loaded => exact Nat.le_refl _
  | @read register keep set value =>
      have bound : (Access.write register value).mayStart.toNat ≤
          (Access.modify register keep set).mayStart.toNat := by
        by_cases other : register.index = Register.systemControl.index
        · have may : (Access.modify register keep set).mayStart = true := beq_iff_eq.mpr other
          rw [may]
          exact Bool.toNat_le _
        · have never : (Access.write register value).mayStart = false := mayStart_other other
          rw [never]
          exact Nat.zero_le _
      simpa [written?, startsLeft] using bound

theorem advance_starts {accesses rest : List Access} {bus after : Bus}
    (performed : (advance accesses).perform bus = (.ok rest, after)) :
    ((accesses.head?.bind written?).any Written.startsTransmitter).toNat + startsLeft rest ≤
      startsLeft accesses := by
  cases accesses with
  | nil => cases performed; exact Nat.le_refl _
  | cons access others =>
      obtain ⟨_, remaining, remains, rfl⟩ := advance_ok performed
      have starts := remains.starts
      simp only [startsLeft, List.map_append, List.sum_append, List.map_cons, List.sum_cons,
        List.head?_cons, Option.bind_some] at starts ⊢
      omega

theorem first_start_left (accesses : List Access) :
    ((accesses.head?.bind written?).any Written.startsTransmitter).toNat ≤ startsLeft accesses := by
  cases accesses with
  | nil => exact Nat.le_refl _
  | cons access others =>
      have own : (access.written?.any Written.startsTransmitter).toNat ≤ access.mayStart.toNat := by
        cases access with
        | modify register keep set => exact Nat.zero_le _
        | _ => exact Nat.le_refl _
      simp only [startsLeft, List.map_cons, List.sum_cons, List.head?_cons, Option.bind_some]
      omega

end Access

theorem transmitAccesses_start_once (request : Request) (frame : Bytes) :
    Access.startsLeft (transmitAccesses request frame) ≤ 1 := by
  have never {access : Access}
      (other : access.register.index ≠ Register.systemControl.index) : access.mayStart.toNat = 0 :=
    congrArg Bool.toNat (Access.mayStart_other other)
  have load : (Access.load Register.transmitBuffer frame).mayStart.toNat = 0 :=
    never (by decide : Register.transmitBuffer.index ≠ Register.systemControl.index)
  have control : (transmitControlAccess request frame).mayStart.toNat = 0 :=
    never (by decide : Register.transmitControl.index ≠ Register.systemControl.index)
  have timeout : (Access.write Register.receiveTimeout
      request.responseTimeout.toUInt64).mayStart.toNat = 0 :=
    never (by decide : Register.receiveTimeout.index ≠ Register.systemControl.index)
  have config (keep set : UInt64) :
      (Access.modify Register.systemConfig keep set).mayStart.toNat = 0 :=
    never (by decide : Register.systemConfig.index ≠ Register.systemControl.index)
  rw [transmitAccesses, Access.startsLeft]
  split
  · simp only [receiveTimeoutAccesses, List.cons_append, List.nil_append, List.map_cons,
      List.map_nil, List.sum_cons, List.sum_nil, load, control, timeout, config, Nat.zero_add,
      Nat.add_zero]
    exact Bool.toNat_le _
  · simp only [List.map_cons, List.map_nil, List.sum_cons, List.sum_nil, load, control,
      Nat.zero_add, Nat.add_zero]
    exact Bool.toNat_le _

namespace CallerPoint

/-- How often a send at the point may start the transmitter before it ends. -/
def startsLeft : CallerPoint → Nat
  | .gate | .silenceLock | .reserving _ _ | .startLock _ _ => 1
  | .silencing accesses => Access.startsLeft accesses + 1
  | .starting accesses _ | .cancelling accesses => Access.startsLeft accesses
  | .checking _ | .waiting _ => 0

theorem writing?_startsLeft (point : CallerPoint) :
    (point.writing?.any Written.startsTransmitter).toNat ≤ point.startsLeft := by
  cases point with
  | silencing accesses => exact Nat.le_succ_of_le (Access.first_start_left accesses)
  | starting accesses deadline => exact Access.first_start_left accesses
  | cancelling accesses => exact Access.first_start_left accesses
  | _ => exact Nat.zero_le _

end CallerPoint

namespace Link

variable {slots size : Nat} {link after : Link slots size} {request : Request} {id : TaskId}
  {point later : CallerPoint}

theorem Preparation.startsLeft (prepared : Preparation link (.send request) (.next after later)) :
    later.startsLeft = 1 := by
  cases prepared with
  | receive receives => cases receives
  | _ => rfl

/-- A send that starts the transmitter starts it once less from then on. -/
theorem CallerTurns.startsLeft
    (turns : CallerTurns link id (.send request) point (.next after later)) :
    (point.writing?.any Written.startsTransmitter).toNat + later.startsLeft ≤ point.startsLeft := by
  cases turns with
  | silence => exact Nat.le_refl _
  | enter free settled prepared =>
      rw [prepared.startsLeft]
      exact Nat.le_refl _
  | silenceLock => decide
  | silenced performed prepared =>
      have left := Access.advance_starts performed
      rw [prepared.startsLeft]
      exact Nat.succ_le_succ left
  | silencing performed => exact Nat.succ_le_succ (Access.advance_starts performed)
  | begin => exact Nat.le_refl _
  | reserving => exact Nat.le_refl _
  | startLock => exact (Nat.zero_add _).trans_le (transmitAccesses_start_once request _)
  | startedSend performed => exact Access.advance_starts performed
  | startedReceive performed receives => cases receives
  | starting performed => exact Access.advance_starts performed
  | started => exact Nat.le_refl _
  | late =>
      have never : Access.startsLeft cancelAccesses = 0 := by decide
      exact Nat.le_of_eq never
  | cancelling performed => exact Access.advance_starts performed
  | woken => exact Nat.le_refl _
  | waiting => exact Nat.le_refl _

end Link

end UwbRadio
