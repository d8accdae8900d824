import UwbRadio.Proofs.Frame.RoundTrip

/-!
What a buffer held before shows in the frame that is written over it. The header is
written into the frame control that stands there, and the bits for security, for
pending data, for acknowledgement and the reserved ones are left as they were: two
buffers take the same frame exactly if they agree on these, and the frame is read
back exactly if the security bit was clear.
-/

namespace UwbRadio

theorem securityLength?_pos {control : FrameControl} (enabled : control.securityEnabled = true)
    {bytes : Bytes} {offset size : Nat}
    (measured : securityLength? control bytes offset = some size) : 0 < size := by
  rw [securityLength?, if_pos enabled] at measured
  obtain ⟨first, -, guarded⟩ := Option.bind_eq_some_iff.mp measured
  obtain ⟨-, -, returned⟩ := Option.bind_eq_some_iff.mp guarded
  cases returned
  rw [FrameControl.securityHeaderSize]
  omega

/-- A frame is read as it was meant exactly if the buffer had the security bit clear: a
security header read into it takes at least a byte of the tag. -/
theorem decodeFrame?_frameOver_iff (header : LinkHeader) (before payload : Bytes)
    (fits : frameLength payload + checkSequenceLength ≤ maxFrameLength) :
    decodeFrame? (header.frameOver before payload) =
        some { sequence := header.sequence, source := some header.source, payload } ↔
      (residue before).toNat.testBit 3 = false := by
  have enabled := controlOver_security before
  cases bit : (residue before).toNat.testBit 3 with
  | false => exact iff_of_true (decodeFrame?_frameOver header payload fits bit) rfl
  | true =>
      rw [bit] at enabled
      refine ⟨fun decoded => ?_, fun impossible => absurd impossible Bool.true_eq_false.mp⟩
      obtain ⟨control, body, framed, tagged, read⟩ := decodeFrame?_eq_some decoded
      rw [frameBody?_frameOver header before payload fits] at framed
      obtain ⟨size, secured, behind⟩ := Option.map_eq_some_iff.mp framed
      have taken := securityLength?_pos enabled secured
      have rest : (linkTag ++ payload).drop size = body := congrArg Prod.snd behind
      have left : payload = body.drop linkTag.length := congrArg LinkFrame.payload read
      have whole : (body.take linkTag.length).length + (body.drop linkTag.length).length =
          linkTag.length + payload.length := by
        rw [tagged, ← left]
      rw [← List.length_append, List.take_append_drop, ← rest, List.length_drop,
        List.length_append] at whole
      have room : linkTag.length = 4 := rfl
      omega

def bufferAfter (buffer : Bytes) (header : LinkHeader) (payload : Bytes) : Bytes :=
  match (encodeFrame buffer header payload : Except (Error Unit) (Nat × Bytes)) with
  | .ok (_, after) => after
  | .error _ => buffer

/-- The frame fits the buffer, and with its check sequence it fits the air. -/
def FitsBuffer (payload buffer : Bytes) : Prop :=
  frameLength payload + checkSequenceLength ≤ maxFrameLength ∧
    frameLength payload ≤ buffer.length

instance (payload buffer : Bytes) : Decidable (FitsBuffer payload buffer) :=
  inferInstanceAs (Decidable (_ ∧ _))

section
variable {fault : Type} {header : LinkHeader} {payload before other : Bytes}

theorem encodeFrame_fitting (fits : FitsBuffer payload before) :
    (encodeFrame before header payload : Except (Error fault) (Nat × Bytes)) =
      .ok (frameLength payload, header.frameOver before payload ++
        before.drop (frameLength payload)) := by
  have overwritten : Bytes.overwrite before 0 (header.bytes before ++ linkTag ++ payload) =
      header.frameOver before payload ++ before.drop (frameLength payload) := by
    rw [Bytes.overwrite, List.take_zero, List.nil_append, Nat.zero_add,
      ← header.frameOver_length before payload]
    rfl
  rw [encodeFrame, if_neg (by unfold FitsBuffer at fits; omega), overwritten]

theorem bufferAfter_fitting (fits : FitsBuffer payload before) :
    bufferAfter before header payload =
      header.frameOver before payload ++ before.drop (frameLength payload) := by
  rw [bufferAfter, encodeFrame_fitting fits]

theorem encodeFrame_refused (large : ¬FitsBuffer payload before) :
    (encodeFrame before header payload : Except (Error fault) (Nat × Bytes)) =
      .error (.bufferTooSmall (frameLength payload + checkSequenceLength)) := by
  rw [encodeFrame, if_pos (by unfold FitsBuffer at large; omega)]

end

theorem residue_of_control (before : Bytes) :
    residue before = LinkHeader.control before &&& untouchedControl := by
  have apart : linkFrameControl &&& untouchedControl = 0 := by decide
  have kept : residue before &&& untouchedControl = residue before := by
    rw [residue, UInt16.and_assoc, UInt16.and_self]
  calc residue before
      = residue before &&& untouchedControl ||| linkFrameControl &&& untouchedControl := by
        rw [kept, apart, UInt16.or_zero]
    _ = (residue before ||| linkFrameControl) &&& untouchedControl := by
        apply UInt16.toNat_inj.mp
        simp only [UInt16.toNat_or, UInt16.toNat_and, Nat.and_or_distrib_right]

theorem frameOver_eq_iff (header : LinkHeader) (before other payload : Bytes) :
    header.frameOver before payload = header.frameOver other payload ↔
      residue before = residue other := by
  constructor
  · intro same
    have shown : controlOver before = controlOver other := by
      rw [← header.frameOver_control before payload, ← header.frameOver_control other payload, same]
    have control : LinkHeader.control before = LinkHeader.control other :=
      UInt16.toNat_inj.mp (congrArg FrameControl.value shown)
    rw [residue_of_control, residue_of_control, control]
  · intro same
    have control : LinkHeader.control before = LinkHeader.control other :=
      congrArg (· ||| linkFrameControl) same
    rw [LinkHeader.frameOver, LinkHeader.frameOver, LinkHeader.bytes, LinkHeader.bytes, control]

/-- Two buffers of one length take the same frame exactly if they agree on the bits of the
frame control that encoding leaves alone, and the frame is read back exactly if the security
bit was clear. What is behind the frame stays, and a refusal writes nothing. -/
theorem encodeFrame_same_iff {fault : Type} (header : LinkHeader) (payload before : Bytes) :
    (FitsBuffer payload before →
      (encodeFrame before header payload : Except (Error fault) (Nat × Bytes)) =
        .ok (frameLength payload, bufferAfter before header payload) ∧
      (bufferAfter before header payload).drop (frameLength payload) =
        before.drop (frameLength payload) ∧
      (decodeFrame? ((bufferAfter before header payload).take (frameLength payload)) =
          some { sequence := header.sequence, source := some header.source, payload } ↔
        (residue before).toNat.testBit 3 = false) ∧
      ∀ other : Bytes, other.length = before.length →
        (encodeFrame other header payload : Except (Error fault) (Nat × Bytes)) =
          .ok (frameLength payload, bufferAfter other header payload) ∧
        ((bufferAfter other header payload).take (frameLength payload) =
            (bufferAfter before header payload).take (frameLength payload) ↔
          residue other = residue before)) ∧
    (¬FitsBuffer payload before →
      (encodeFrame before header payload : Except (Error fault) (Nat × Bytes)) =
        .error (.bufferTooSmall (frameLength payload + checkSequenceLength)) ∧
      bufferAfter before header payload = before) := by
  have written : ∀ {buffer : Bytes}, FitsBuffer payload buffer →
      (bufferAfter buffer header payload).take (frameLength payload) =
        header.frameOver buffer payload := by
    intro buffer fits
    rw [bufferAfter_fitting fits]
    exact List.take_left' (header.frameOver_length buffer payload)
  constructor
  · intro fits
    refine ⟨?_, ?_, ?_, ?_⟩
    · rw [bufferAfter_fitting fits]
      exact encodeFrame_fitting fits
    · rw [bufferAfter_fitting fits]
      exact List.drop_left' (header.frameOver_length before payload)
    · rw [written fits]
      exact decodeFrame?_frameOver_iff header before payload fits.1
    · intro other same
      have fitsOther : FitsBuffer payload other := by
        rw [FitsBuffer, same]
        exact fits
      rw [written fits, written fitsOther]
      refine ⟨?_, frameOver_eq_iff header other before payload⟩
      rw [bufferAfter_fitting fitsOther]
      exact encodeFrame_fitting fitsOther
  · intro large
    refine ⟨encodeFrame_refused large, ?_⟩
    rw [bufferAfter, encodeFrame_refused large]

/-- A buffer that held another link frame takes the same frame as a blank one. -/
theorem used_buffer_takes_same_frame :
    ∃ used blank : Bytes,
      used = [0x41, 0x98, 6, 0xca, 0xde] ++ List.replicate 15 0xff ∧
      blank = List.replicate 20 0 ∧
      decodeFrame? ((bufferAfter used ⟨7, 0xdeca, 1, some 2⟩ [0x68, 0x69]).take 15) =
        some { sequence := 7, source := some 1, payload := [0x68, 0x69] } ∧
      (bufferAfter used ⟨7, 0xdeca, 1, some 2⟩ [0x68, 0x69]).drop 15 = used.drop 15 ∧
      (bufferAfter blank ⟨7, 0xdeca, 1, some 2⟩ [0x68, 0x69]).take 15 =
        (bufferAfter used ⟨7, 0xdeca, 1, some 2⟩ [0x68, 0x69]).take 15 := by
  refine ⟨_, _, rfl, rfl, ?_⟩
  obtain ⟨-, behind, read, others⟩ :=
    (@encodeFrame_same_iff Unit ⟨7, 0xdeca, 1, some 2⟩ [0x68, 0x69]
      ([0x41, 0x98, 6, 0xca, 0xde] ++ List.replicate 15 0xff)).1 (by decide)
  exact ⟨read.mpr (by decide), behind,
    (others (List.replicate 20 0) (by decide)).2.mpr (by decide)⟩

/-- Over a buffer with the security bit set the same header and payload give another frame
than over a blank one of the same length, and the reader refuses it. -/
theorem secured_buffer_changes_frame :
    ∃ (header : LinkHeader) (payload marked blank : Bytes),
      marked.length = blank.length ∧ FitsBuffer payload marked ∧
      (bufferAfter marked header payload).take (frameLength payload) ≠
        (bufferAfter blank header payload).take (frameLength payload) ∧
      decodeFrame? ((bufferAfter marked header payload).take (frameLength payload)) = none :=
  ⟨⟨7, 0xdeca, 1, some 2⟩, [0x68, 0x65, 0x6c, 0x6c, 0x6f], List.replicate 20 0x08,
    List.replicate 20 0, by decide, by decide, by decide, by decide⟩

end UwbRadio
