import Mathlib.Data.Nat.Bitwise
import Mathlib.Data.Option.Basic
import UwbRadio.Proofs.Bytes
import UwbRadio.Frame.Basic

/-!
A frame is read back as it was meant: with the number of its header, its sender, its
destination and its payload. What it is written over shows in a few bits of its frame
control, of which only the security bit matters to the reader; a blank buffer has it clear.
-/

namespace UwbRadio

theorem ofNat_fromLittleEndian_two (value : UInt16) :
    UInt16.ofNat (Bytes.fromLittleEndian (Bytes.littleEndian 2 value.toNat)) = value := by
  have bound : value.toNat < 256 ^ 2 := value.toNat_lt
  rw [Bytes.fromLittleEndian_littleEndian, Nat.mod_eq_of_lt bound, UInt16.ofNat_toNat]

/-- The bits of the frame control that a frame written over this buffer keeps of it. -/
def residue (buffer : Bytes) : UInt16 :=
  UInt16.ofNat (Bytes.fromLittleEndian (buffer.take 2)) &&& untouchedControl

/-- The frame as it is written over a buffer that starts with `before`. -/
def LinkHeader.frameOver (header : LinkHeader) (before payload : Bytes) : Bytes :=
  header.bytes before ++ linkTag ++ payload

theorem LinkHeader.frameOver_length (header : LinkHeader) (before payload : Bytes) :
    (header.frameOver before payload).length = frameLength payload := by
  simp [LinkHeader.frameOver, LinkHeader.bytes, frameLength, frameHeaderLength, linkTag]
  omega

def controlOver (before : Bytes) : FrameControl := ⟨(LinkHeader.control before).toNat⟩

theorem LinkHeader.frameOver_control (header : LinkHeader) (before payload : Bytes) :
    FrameControl.mk (Bytes.fromLittleEndian ((header.frameOver before payload).take 2)) =
      controlOver before := by
  have first : (header.frameOver before payload).take 2 =
      Bytes.littleEndian 2 (LinkHeader.control before).toNat := rfl
  have bound : (LinkHeader.control before).toNat < 256 ^ 2 := (LinkHeader.control before).toNat_lt
  rw [first, Bytes.fromLittleEndian_littleEndian, Nat.mod_eq_of_lt bound]
  rfl

theorem controlOver_value (before : Bytes) :
    (controlOver before).value = (residue before).toNat ||| 0x9841 := by
  show ((residue before) ||| linkFrameControl).toNat = _
  rw [UInt16.toNat_or]
  rfl

theorem residue_within (before : Bytes) :
    (residue before).toNat = (residue before).toNat &&& 0x03b8 := by
  have masked : residue before = residue before &&& untouchedControl := by
    rw [residue, UInt16.and_assoc, UInt16.and_self]
  conv_lhs => rw [masked, UInt16.toNat_and]
  rfl

theorem controlOver_modes (before : Bytes) : (controlOver before).value >>> 10 = 38 := by
  rw [controlOver_value, residue_within, Nat.shiftRight_or_distrib, Nat.shiftRight_and_distrib]
  simp

theorem controlOver_type (before : Bytes) : (controlOver before).value % 8 = 1 := by
  rw [controlOver_value, residue_within, show 8 = 2 ^ 3 from rfl, Nat.or_mod_two_pow,
    Nat.and_mod_two_pow]
  simp

theorem controlOver_compression (before : Bytes) :
    (controlOver before).panCompression = true := by
  rw [FrameControl.panCompression, controlOver_value, Nat.testBit_or,
    show Nat.testBit 0x9841 6 = true from rfl, Bool.or_true]

theorem controlOver_security (before : Bytes) :
    (controlOver before).securityEnabled = (residue before).toNat.testBit 3 := by
  rw [FrameControl.securityEnabled, controlOver_value, Nat.testBit_or,
    show Nat.testBit 0x9841 3 = false from rfl, Bool.or_false]

theorem controlOver_destinationMode (before : Bytes) :
    (controlOver before).destinationMode = .short := by
  rw [FrameControl.destinationMode, controlOver_modes]
  rfl

theorem controlOver_sourceMode (before : Bytes) : (controlOver before).sourceMode = .short := by
  rw [FrameControl.sourceMode, Nat.shiftRight_add _ 10 4, controlOver_modes]
  rfl

theorem controlOver_version (before : Bytes) : (controlOver before).version = 1 := by
  rw [FrameControl.version, Nat.shiftRight_add _ 10 2, controlOver_modes]
  rfl

theorem controlOver_addressing (before : Bytes) :
    (controlOver before).addressing = ⟨2, 2, 0, 2⟩ := by
  rw [FrameControl.addressing, FrameControl.pans, controlOver_version, controlOver_destinationMode,
    controlOver_sourceMode, controlOver_compression]
  rfl

theorem controlOver_valid (before : Bytes) : (controlOver before).valid = true := by
  rw [FrameControl.valid, controlOver_version, controlOver_destinationMode,
    controlOver_sourceMode, controlOver_compression]
  rfl

theorem frameBody?_frameOver (header : LinkHeader) (before payload : Bytes)
    (fits : frameLength payload + checkSequenceLength ≤ maxFrameLength) :
    frameBody? (header.frameOver before payload) =
      (securityLength? (controlOver before) (header.frameOver before payload)
        frameHeaderLength).map fun size =>
          (controlOver before, (linkTag ++ payload).drop size) := by
  have measured := header.frameOver_length before payload
  unfold frameLength frameHeaderLength at measured
  unfold frameLength frameHeaderLength checkSequenceLength at fits
  have size : addressingOffset + (controlOver before).addressing.size = frameHeaderLength := by
    rw [controlOver_addressing]
    rfl
  have long : addressingOffset ≤ (header.frameOver before payload).length ∧
      (header.frameOver before payload).length ≤ maxFrameLength := by
    rw [addressingOffset]
    omega
  have whole : frameHeaderLength ≤ (header.frameOver before payload).length := by
    rw [frameHeaderLength]
    omega
  have data : (controlOver before).frameType = FrameControl.dataFrame := controlOver_type before
  have rest : (header.frameOver before payload).drop frameHeaderLength = linkTag ++ payload := by
    rw [LinkHeader.frameOver, List.append_assoc]
    rfl
  unfold frameBody?
  rw [header.frameOver_control]
  cases secured : securityLength? (controlOver before) (header.frameOver before payload)
      frameHeaderLength with
  | none => simp [guard, long, size, whole, secured]
  | some security =>
      simp [guard, long, size, whole, secured, controlOver_valid, data, ← List.drop_drop, rest]

theorem frameSource?_frameOver (header : LinkHeader) (before payload : Bytes) :
    frameSource? (controlOver before) (header.frameOver before payload) = some header.source := by
  have bytes : ((header.frameOver before payload).drop 7).take 2 =
      Bytes.littleEndian 2 header.source.toNat := rfl
  unfold frameSource?
  rw [controlOver_sourceMode, controlOver_addressing]
  dsimp only [addressingOffset]
  rw [bytes, ofNat_fromLittleEndian_two]

theorem decodeFrame?_frameOver (header : LinkHeader) {before : Bytes} (payload : Bytes)
    (fits : frameLength payload + checkSequenceLength ≤ maxFrameLength)
    (unsecured : (residue before).toNat.testBit 3 = false) :
    decodeFrame? (header.frameOver before payload) =
      some { sequence := header.sequence, source := some header.source, payload } := by
  have plain : (controlOver before).securityEnabled = false := by
    rw [controlOver_security, unsecured]
  unfold decodeFrame?
  rw [frameBody?_frameOver header before payload fits]
  simp [securityLength?, plain, guard, frameSource?_frameOver]
  rfl

theorem decodeFrame?_eq_some {bytes : Bytes} {frame : LinkFrame}
    (decoded : decodeFrame? bytes = some frame) :
    ∃ control body, frameBody? bytes = some (control, body) ∧
      body.take linkTag.length = linkTag ∧
      frame =
        { sequence := bytes.getD 2 0
          source := frameSource? control bytes
          payload := body.drop linkTag.length } := by
  unfold decodeFrame? at decoded
  obtain ⟨⟨control, body⟩, found, decoded⟩ := Option.bind_eq_some_iff.mp decoded
  obtain ⟨_, tagged, decoded⟩ := Option.bind_eq_some_iff.mp decoded
  cases decoded
  exact ⟨control, body, found, (Option.guard_eq_some' ()).mp tagged, rfl⟩

theorem frameBody?_eq_some {bytes body : Bytes} {control : FrameControl}
    (framed : frameBody? bytes = some (control, body)) :
    control = ⟨Bytes.fromLittleEndian (bytes.take 2)⟩ ∧
      ∃ length, addressingOffset + control.addressing.size ≤ length ∧ length ≤ bytes.length ∧
        body = bytes.drop length := by
  unfold frameBody? at framed
  obtain ⟨_, _, framed⟩ := Option.bind_eq_some_iff.mp framed
  obtain ⟨_, whole, framed⟩ := Option.bind_eq_some_iff.mp framed
  obtain ⟨security, secured, framed⟩ := Option.bind_eq_some_iff.mp framed
  obtain ⟨_, _, framed⟩ := Option.bind_eq_some_iff.mp framed
  obtain ⟨_, _, framed⟩ := Option.bind_eq_some_iff.mp framed
  cases framed
  refine ⟨rfl, _, Nat.le_add_right _ _, ?_, rfl⟩
  unfold securityLength? at secured
  split at secured
  · obtain ⟨_, _, secured⟩ := Option.bind_eq_some_iff.mp secured
    obtain ⟨_, inside, secured⟩ := Option.bind_eq_some_iff.mp secured
    cases secured
    exact (Option.guard_eq_some' ()).mp inside
  · cases secured
    exact (Option.guard_eq_some' ()).mp whole

/-- A frame is its header, which has all its addressing fields, then the tag, then the payload. -/
theorem decodeFrame?_parts {bytes : Bytes} {frame : LinkFrame}
    (decoded : decodeFrame? bytes = some frame) :
    ∃ header, bytes = header ++ (linkTag ++ frame.payload) ∧
      addressingOffset +
        (FrameControl.mk (Bytes.fromLittleEndian (bytes.take 2))).addressing.size ≤
          header.length := by
  obtain ⟨control, body, framed, tagged, rfl⟩ := decodeFrame?_eq_some decoded
  obtain ⟨rfl, length, fields, inside, rfl⟩ := frameBody?_eq_some framed
  have body : bytes.drop length =
      linkTag ++ (bytes.drop length).drop linkTag.length := by
    conv_lhs => rw [← List.take_append_drop linkTag.length (bytes.drop length), tagged]
  refine ⟨bytes.take length, ?_, ?_⟩
  · rw [← body, List.take_append_drop]
  · rw [List.length_take, Nat.min_eq_left inside]
    exact fields

def LinkHeader.frame (header : LinkHeader) (payload : Bytes) : Bytes :=
  [0x41, 0x98, header.sequence] ++
    (Bytes.littleEndian 2 header.panId.toNat ++
      (Bytes.littleEndian 2 (header.destination.getD broadcastAddress).toNat ++
        (Bytes.littleEndian 2 header.source.toNat ++ (linkTag ++ payload))))

theorem LinkHeader.frame_length (header : LinkHeader) (payload : Bytes) :
    (header.frame payload).length = frameLength payload := by
  simp [LinkHeader.frame, frameLength, frameHeaderLength, linkTag]
  omega

theorem LinkHeader.bytes_blank (header : LinkHeader) (payload : Bytes) :
    header.bytes (List.replicate maxFrameLength 0) ++ linkTag ++ payload =
      header.frame payload := by
  have control : LinkHeader.control (List.replicate maxFrameLength 0) = 0x9841 := by decide
  rw [LinkHeader.bytes, control, LinkHeader.frame]
  simp only [List.append_assoc]
  rfl

theorem frame_of_encodeFrame {fault : Type} {header : LinkHeader} {payload : Bytes}
    {length : Nat} {buffer : Bytes}
    (encoded : (encodeFrame (List.replicate maxFrameLength 0) header payload :
      Except (Error fault) (Nat × Bytes)) = .ok (length, buffer)) :
    buffer.take length = header.frame payload ∧
      (header.frame payload).length + checkSequenceLength ≤ maxFrameLength := by
  unfold encodeFrame at encoded
  dsimp only at encoded
  split at encoded
  · cases encoded
  · rename_i fits
    cases encoded
    rw [LinkHeader.bytes_blank, Bytes.overwrite, ← LinkHeader.frame_length]
    constructor
    · rw [List.take_zero, List.nil_append, List.take_left]
    · rw [LinkHeader.frame_length]
      omega

def blankControl : FrameControl := ⟨0x9841⟩

theorem controlOver_blank : controlOver (List.replicate maxFrameLength 0) = blankControl := by
  decide

theorem residue_blank : residue (List.replicate maxFrameLength 0) = 0 := by decide

theorem blankControl_addressing : blankControl.addressing = ⟨2, 2, 0, 2⟩ := by decide

theorem frameBody?_frame (header : LinkHeader) (payload : Bytes)
    (fits : (header.frame payload).length + checkSequenceLength ≤ maxFrameLength) :
    frameBody? (header.frame payload) = some (blankControl, linkTag ++ payload) := by
  have plain : blankControl.securityEnabled = false := by decide
  rw [header.frame_length] at fits
  rw [← header.bytes_blank]
  have framed := frameBody?_frameOver header (List.replicate maxFrameLength 0) payload fits
  rw [controlOver_blank, securityLength?, plain] at framed
  exact framed

theorem decodeFrame?_frame (header : LinkHeader) (payload : Bytes)
    (fits : (header.frame payload).length + checkSequenceLength ≤ maxFrameLength) :
    decodeFrame? (header.frame payload) =
      some { sequence := header.sequence, source := some header.source, payload } := by
  rw [header.frame_length] at fits
  rw [← header.bytes_blank]
  exact decodeFrame?_frameOver header payload fits (by rw [residue_blank]; rfl)

def frameDestination? (bytes : Bytes) : Option UInt16 := do
  let (control, _) ← frameBody? bytes
  guard (control.destinationMode = .short)
  let fields := control.addressing
  let address := (bytes.drop (addressingOffset + fields.destinationPan)).take fields.destination
  return UInt16.ofNat (Bytes.fromLittleEndian address)

theorem frameDestination?_frame (header : LinkHeader) (payload : Bytes)
    (fits : (header.frame payload).length + checkSequenceLength ≤ maxFrameLength) :
    frameDestination? (header.frame payload) =
      some (header.destination.getD broadcastAddress) := by
  have short : blankControl.destinationMode = .short := by decide
  have bytes : ((header.frame payload).drop 5).take 2 =
      Bytes.littleEndian 2 (header.destination.getD broadcastAddress).toNat := rfl
  unfold frameDestination?
  rw [frameBody?_frame header payload fits]
  simp [guard, short, blankControl_addressing, addressingOffset, bytes, ofNat_fromLittleEndian_two]

def frameDestinationPan? (bytes : Bytes) : Option UInt16 := do
  let (control, _) ← frameBody? bytes
  let fields := control.addressing
  guard (fields.destinationPan = FrameControl.panSize)
  let identifier := (bytes.drop addressingOffset).take fields.destinationPan
  return UInt16.ofNat (Bytes.fromLittleEndian identifier)

theorem frameDestinationPan?_frame (header : LinkHeader) (payload : Bytes)
    (fits : (header.frame payload).length + checkSequenceLength ≤ maxFrameLength) :
    frameDestinationPan? (header.frame payload) = some header.panId := by
  have bytes : ((header.frame payload).drop 3).take 2 =
      Bytes.littleEndian 2 header.panId.toNat := rfl
  unfold frameDestinationPan?
  rw [frameBody?_frame header payload fits]
  simp [guard, blankControl_addressing, addressingOffset, FrameControl.panSize, bytes,
    ofNat_fromLittleEndian_two]

end UwbRadio
