import UwbRadio.Proofs.Ranging.Message

/-!
Ranging messages at a cursor. A message goes through a cursor one field after the other,
each at the offset behind the one before, and this reads and writes what the fixed places
of `Message.decode` and the bytes of `Message.encode` say.

With room for a message, writing replaces eleven bytes by its encoding and reading is the
inverse, in both directions. Without it both fail and leave the offset; what a failed write
leaves are the fields in front of the first that does not fit.
-/

namespace UwbRadio

structure Cursor where
  bytes : Bytes
  offset : Nat

abbrev Codec := EStateM CodecError Cursor

namespace Codec

/-- An error at an offset into what begins at `start`. -/
def behind (start : Nat) : CodecError → CodecError
  | .incomplete => .incomplete
  | .badOffset offset => .badOffset (offset + start)

/-- Run `access` on what is left of the bytes, with an offset that counts from there. The
cursor advances by the offset that it ends with. When it fails, the cursor stays where it
is, with what was written until then. -/
def onRest {α : Type} (access : Codec α) : Codec α := fun cursor =>
  if cursor.offset > cursor.bytes.length then
    .error (.badOffset cursor.offset) cursor
  else
    let front := cursor.bytes.take cursor.offset
    match access.run ⟨cursor.bytes.drop cursor.offset, 0⟩ with
    | .ok value rest => .ok value ⟨front ++ rest.bytes, cursor.offset + rest.offset⟩
    | .error error rest => .error (behind cursor.offset error) ⟨front ++ rest.bytes, cursor.offset⟩

def decodeFront (order : ByteOrder) (width : Nat) : Codec Nat := fun rest =>
  if rest.bytes.length < width then
    .error .incomplete rest
  else
    .ok (order.decode (rest.bytes.take width)) ⟨rest.bytes, width⟩

def encodeFront (order : ByteOrder) (width value : Nat) : Codec Unit := fun rest =>
  if rest.bytes.length < width then
    .error .incomplete rest
  else
    .ok () ⟨order.encode width value ++ rest.bytes.drop width, width⟩

def readNumber (order : ByteOrder) (width : Nat) : Codec Nat :=
  onRest (decodeFront order width)

def writeNumber (order : ByteOrder) (width value : Nat) : Codec Unit :=
  onRest (encodeFront order width value)

theorem onRest_run {α : Type} (access : Codec α) {bytes : Bytes} {offset : Nat}
    (reached : offset ≤ bytes.length) :
    (onRest access).run ⟨bytes, offset⟩ =
      match access.run ⟨bytes.drop offset, 0⟩ with
      | .ok value rest => .ok value ⟨bytes.take offset ++ rest.bytes, offset + rest.offset⟩
      | .error error rest =>
          .error (behind offset error) ⟨bytes.take offset ++ rest.bytes, offset⟩ :=
  if_neg (Nat.not_lt_of_le reached)

theorem onRest_run_beyond {α : Type} (access : Codec α) {bytes : Bytes} {offset : Nat}
    (beyond : bytes.length < offset) :
    (onRest access).run ⟨bytes, offset⟩ = .error (.badOffset offset) ⟨bytes, offset⟩ :=
  if_pos beyond

theorem readNumber_run (order : ByteOrder) (width : Nat) {bytes : Bytes} {offset : Nat}
    (reached : offset ≤ bytes.length) :
    (readNumber order width).run ⟨bytes, offset⟩ =
      if offset + width ≤ bytes.length then
        .ok (order.decode ((bytes.drop offset).take width)) ⟨bytes, offset + width⟩
      else
        .error .incomplete ⟨bytes, offset⟩ := by
  rw [readNumber, onRest_run _ reached, EStateM.run, decodeFront, List.length_drop]
  by_cases room : offset + width ≤ bytes.length
  · rw [if_pos room, if_neg (by omega)]
    simp only [List.take_append_drop]
  · rw [if_neg room, if_pos (by omega)]
    simp only [List.take_append_drop, behind]

theorem readNumber_bind {α : Type} (order : ByteOrder) {width : Nat} {bytes : Bytes}
    {offset : Nat} (next : Nat → Codec α) (room : offset + width ≤ bytes.length) :
    (readNumber order width >>= next).run ⟨bytes, offset⟩ =
      (next (order.decode ((bytes.drop offset).take width))).run ⟨bytes, offset + width⟩ := by
  rw [EStateM.run_bind, readNumber_run _ _ (Nat.le_of_add_right_le room), if_pos room]

theorem readNumber_bind_short {α : Type} (order : ByteOrder) {width : Nat} {bytes : Bytes}
    {offset : Nat} {next : Nat → Codec α} (reached : offset ≤ bytes.length)
    (short : ∀ value, offset + width ≤ bytes.length →
      ∃ stop, (next value).run ⟨bytes, offset + width⟩ = .error .incomplete ⟨bytes, stop⟩) :
    ∃ stop, (readNumber order width >>= next).run ⟨bytes, offset⟩ =
      .error .incomplete ⟨bytes, stop⟩ := by
  by_cases room : offset + width ≤ bytes.length
  · rw [readNumber_bind order next room]
    exact short _ room
  · exact ⟨offset, by rw [EStateM.run_bind, readNumber_run _ _ reached, if_neg room]⟩

theorem writeNumber_run (order : ByteOrder) (width value : Nat) {bytes : Bytes} {offset : Nat}
    (reached : offset ≤ bytes.length) :
    (writeNumber order width value).run ⟨bytes, offset⟩ =
      if offset + width ≤ bytes.length then
        .ok () ⟨Bytes.overwrite bytes offset (order.encode width value), offset + width⟩
      else
        .error .incomplete ⟨bytes, offset⟩ := by
  rw [writeNumber, onRest_run _ reached, EStateM.run, encodeFront, List.length_drop]
  by_cases room : offset + width ≤ bytes.length
  · rw [if_pos room, if_neg (by omega)]
    simp only [Bytes.overwrite, List.drop_drop, List.append_assoc, ByteOrder.encode_length]
  · rw [if_neg room, if_pos (by omega)]
    simp only [List.take_append_drop, behind]

end Codec

namespace Ranging.Message

open Codec

def readFields (order : ByteOrder) : Codec Message := do
  let code ← readNumber order 1
  let master ← readNumber order 2
  let first ← readNumber order 2
  let second ← readNumber order 2
  let timeOfFlight ← readNumber order 4
  return {
    code := UInt8.ofNat code
    master := UInt16.ofNat master
    first := UInt16.ofNat first
    second := UInt16.ofNat second
    timeOfFlight := UInt32.ofNat timeOfFlight }

def writeFields (order : ByteOrder) : List (Nat × Nat) → Codec Unit
  | [] => return
  | (width, value) :: rest => do
      writeNumber order width value
      writeFields order rest

def readAt (order : ByteOrder) : Codec Message := onRest (readFields order)

def writeAt (message : Message) (order : ByteOrder) : Codec Unit :=
  onRest (writeFields order message.fields)

def width (fields : List (Nat × Nat)) : Nat := (fields.map Prod.fst).sum

def encodeAll (order : ByteOrder) (fields : List (Nat × Nat)) : Bytes :=
  fields.flatMap fun (width, value) => order.encode width value

def Fitting (fields : List (Nat × Nat)) (room : Nat) (fitting : List (Nat × Nat)) : Prop :=
  ∃ field left, fields = fitting ++ field :: left ∧
    width fitting ≤ room ∧ room < width fitting + field.1

@[simp] theorem width_nil : width [] = 0 := rfl

@[simp] theorem width_cons (field : Nat × Nat) (rest : List (Nat × Nat)) :
    width (field :: rest) = field.1 + width rest := by
  rw [width, List.map_cons, List.sum_cons, width]

theorem encodeAll_cons (order : ByteOrder) (field : Nat × Nat) (rest : List (Nat × Nat)) :
    encodeAll order (field :: rest) = order.encode field.1 field.2 ++ encodeAll order rest := by
  rw [encodeAll, List.flatMap_cons, encodeAll]

theorem encodeAll_length (order : ByteOrder) (fields : List (Nat × Nat)) :
    (encodeAll order fields).length = width fields := by
  induction fields with
  | nil => rfl
  | cons field rest ih =>
      rw [encodeAll_cons, List.length_append, ByteOrder.encode_length, ih, width_cons]

theorem encodeFields_of_room (order : ByteOrder) {fields : List (Nat × Nat)} {room : Nat}
    (enough : width fields ≤ room) :
    encodeFields order fields room = (encodeAll order fields, true) := by
  induction fields generalizing room with
  | nil => rfl
  | cons field rest ih =>
      rw [width_cons] at enough
      rw [encodeFields, if_pos (by omega), ih (by omega), encodeAll_cons]

theorem exists_fitting (order : ByteOrder) {fields : List (Nat × Nat)} {room : Nat}
    (short : room < width fields) :
    ∃ fitting, Fitting fields room fitting ∧
      encodeFields order fields room = (encodeAll order fitting, false) := by
  induction fields generalizing room with
  | nil => exact absurd short (Nat.not_lt_zero room)
  | cons field rest ih =>
      rw [width_cons] at short
      by_cases fits : field.1 ≤ room
      · have shorter : room - field.1 < width rest := by omega
        obtain ⟨fitting, ⟨next, left, split, within, beyond⟩, encoded⟩ := ih shorter
        refine ⟨field :: fitting, ⟨next, left, by rw [split, List.cons_append], ?_, ?_⟩, ?_⟩
        · rw [width_cons]
          omega
        · rw [width_cons]
          omega
        · rw [encodeFields, if_pos fits, encoded, encodeAll_cons]
      · refine ⟨[], ⟨field, rest, rfl, Nat.zero_le room, ?_⟩, ?_⟩
        · rw [width_nil]
          omega
        · rw [encodeFields, if_neg fits]
          rfl

/-! ### Whole messages -/

theorem encode_eq (message : Message) (order : ByteOrder) :
    message.encode order = encodeAll order message.fields := rfl

theorem writeFields_run (order : ByteOrder) (fields : List (Nat × Nat)) {bytes : Bytes}
    {offset : Nat} (reached : offset ≤ bytes.length) :
    (writeFields order fields).run ⟨bytes, offset⟩ =
      let (encoded, complete) := encodeFields order fields (bytes.length - offset)
      let after : Cursor := ⟨Bytes.overwrite bytes offset encoded, offset + encoded.length⟩
      if complete then .ok () after else .error .incomplete after := by
  induction fields generalizing bytes offset with
  | nil =>
      rw [encodeFields]
      simp only [Bytes.overwrite_nil]
      rfl
  | cons field rest ih =>
      obtain ⟨width, value⟩ := field
      rw [writeFields, EStateM.run_bind, writeNumber_run _ _ _ reached, encodeFields]
      by_cases room : offset + width ≤ bytes.length
      · have spaced : offset + (order.encode width value).length ≤ bytes.length := by
          rw [order.encode_length]
          exact room
        have kept := Bytes.overwrite_length bytes offset _ spaced
        have left : bytes.length - (offset + width) = bytes.length - offset - width := by omega
        have joined := Bytes.overwrite_overwrite spaced
        rw [order.encode_length] at joined
        rw [if_pos room, if_pos (by omega)]
        dsimp only
        rw [ih (by omega), kept, left]
        simp only [joined, List.length_append, order.encode_length, Nat.add_assoc]
      · rw [if_neg room, if_neg (by omega)]
        simp only [Bytes.overwrite_nil]
        rfl

theorem readFields_run (order : ByteOrder) {bytes : Bytes} (room : length ≤ bytes.length) :
    (readFields order).run ⟨bytes, 0⟩ = .ok (decode order bytes) ⟨bytes, length⟩ := by
  rw [length] at room
  rw [readFields, readNumber_bind order _ (by omega), readNumber_bind order _ (by omega),
    readNumber_bind order _ (by omega), readNumber_bind order _ (by omega),
    readNumber_bind order _ (by omega)]
  rfl

theorem readFields_run_short (order : ByteOrder) {bytes : Bytes} (short : bytes.length < length) :
    ∃ stop, (readFields order).run ⟨bytes, 0⟩ = .error .incomplete ⟨bytes, stop⟩ :=
  readNumber_bind_short order (Nat.zero_le _) fun _ one =>
  readNumber_bind_short order one fun _ three =>
  readNumber_bind_short order three fun _ five =>
  readNumber_bind_short order five fun _ seven =>
  readNumber_bind_short order seven fun _ eleven => absurd eleven (Nat.not_le_of_lt short)

section Placed

variable {bytes : Bytes} {offset : Nat}

theorem writeAt_run (message : Message) (order : ByteOrder) (reached : offset ≤ bytes.length) :
    (message.writeAt order).run ⟨bytes, offset⟩ =
      let (encoded, complete) := encodeFields order message.fields (bytes.length - offset)
      let written := Bytes.overwrite bytes offset encoded
      if complete then .ok () ⟨written, offset + encoded.length⟩
      else .error .incomplete ⟨written, offset⟩ := by
  rw [writeAt, onRest_run _ reached, writeFields_run _ _ (Nat.zero_le _), List.length_drop,
    Nat.sub_zero]
  obtain ⟨encoded, complete⟩ := encodeFields order message.fields (bytes.length - offset)
  cases complete <;>
    simp only [Bytes.overwrite, List.take_zero, List.nil_append, List.drop_drop,
      List.append_assoc, Nat.zero_add, Bool.false_eq_true, if_false, if_true, behind]

def refusal (bytes : Bytes) (offset : Nat) : CodecError :=
  if bytes.length < offset then .badOffset offset else .incomplete

theorem writeAt_of_room (message : Message) (order : ByteOrder)
    (room : offset + length ≤ bytes.length) :
    (message.writeAt order).run ⟨bytes, offset⟩ =
      .ok () ⟨Bytes.overwrite bytes offset (message.encode order), offset + length⟩ := by
  have enough : width message.fields ≤ bytes.length - offset := Nat.le_sub_of_add_le' room
  rw [writeAt_run _ _ (Nat.le_of_add_right_le room), encodeFields_of_room order enough,
    ← encode_eq]
  simp only [encode_length, if_true]

theorem writeAt_of_short (message : Message) (order : ByteOrder)
    (short : bytes.length < offset + length) :
    ∃ fitting, Fitting message.fields (bytes.length - offset) fitting ∧
      (message.writeAt order).run ⟨bytes, offset⟩ =
        .error (refusal bytes offset)
          ⟨Bytes.overwrite bytes offset (encodeAll order fitting), offset⟩ := by
  have few : bytes.length - offset < width message.fields := by
    have whole : width message.fields = 11 := rfl
    rw [length] at short
    omega
  obtain ⟨fitting, fits, encoded⟩ := exists_fitting order few
  refine ⟨fitting, fits, ?_⟩
  by_cases beyond : bytes.length < offset
  · have nothing : encodeAll order fitting = [] := by
      obtain ⟨_, _, _, within, _⟩ := fits
      apply List.eq_nil_of_length_eq_zero
      rw [encodeAll_length]
      omega
    rw [refusal, if_pos beyond, writeAt, onRest_run_beyond _ beyond, nothing, Bytes.overwrite_nil]
  · rw [refusal, if_neg beyond, writeAt_run _ _ (Nat.le_of_not_lt beyond), encoded]
    rfl

theorem readAt_of_room (order : ByteOrder) (room : offset + length ≤ bytes.length) :
    (readAt order).run ⟨bytes, offset⟩ =
      .ok (decode order (bytes.drop offset)) ⟨bytes, offset + length⟩ := by
  have left : length ≤ (bytes.drop offset).length := by
    rw [List.length_drop]
    omega
  rw [readAt, onRest_run _ (Nat.le_of_add_right_le room), readFields_run order left]
  simp only [List.take_append_drop]

theorem readAt_of_short (order : ByteOrder) (short : bytes.length < offset + length) :
    (readAt order).run ⟨bytes, offset⟩ = .error (refusal bytes offset) ⟨bytes, offset⟩ := by
  by_cases beyond : bytes.length < offset
  · rw [refusal, if_pos beyond, readAt, onRest_run_beyond _ beyond]
  · have reached : offset ≤ bytes.length := Nat.le_of_not_lt beyond
    have few : (bytes.drop offset).length < length := by
      rw [List.length_drop]
      omega
    obtain ⟨stop, ended⟩ := readFields_run_short order few
    rw [refusal, if_neg beyond, readAt, onRest_run _ reached, ended]
    simp only [List.take_append_drop, behind]

theorem refusal_badOffset : refusal bytes offset = .badOffset offset ↔ bytes.length < offset := by
  unfold refusal
  split
  case isTrue beyond => exact ⟨fun _ => beyond, fun _ => rfl⟩
  case isFalse reached => exact ⟨nofun, fun beyond => absurd beyond reached⟩

theorem refusal_incomplete : refusal bytes offset = .incomplete ↔ offset ≤ bytes.length := by
  unfold refusal
  split
  case isTrue beyond => exact ⟨nofun, fun reached => absurd beyond (Nat.not_lt_of_le reached)⟩
  case isFalse reached => exact ⟨fun _ => Nat.le_of_not_lt reached, fun _ => rfl⟩

end Placed

theorem write_eq (message : Message) (order : ByteOrder) (buffer : Bytes) (offset : Nat) :
    message.write order buffer offset =
      match (message.writeAt order).run ⟨buffer, offset⟩ with
      | .ok _ after => (.ok after.offset, after.bytes)
      | .error error after => (.error error, after.bytes) := by
  by_cases beyond : buffer.length < offset
  · rw [write, if_pos beyond, writeAt, onRest_run_beyond _ beyond]
  · rw [write, if_neg beyond, writeAt_run _ _ (Nat.le_of_not_lt beyond)]
    obtain ⟨encoded, complete⟩ := encodeFields order message.fields (buffer.length - offset)
    cases complete <;> rfl

theorem read_eq (order : ByteOrder) (buffer : Bytes) (offset : Nat) :
    read order buffer offset =
      match (readAt order).run ⟨buffer, offset⟩ with
      | .ok message after => .ok (message, after.offset)
      | .error error _ => .error error := by
  by_cases short : buffer.length < offset + length
  · rw [readAt_of_short order short, read, refusal]
    by_cases beyond : buffer.length < offset
    · rw [if_pos beyond, if_pos beyond]
    · rw [if_neg beyond, if_neg beyond, if_pos (by omega)]
  · rw [readAt_of_room order (Nat.le_of_not_lt short), read, if_neg (by omega), if_neg (by omega)]

/-- With room for a message, reading and writing at a cursor are each other's inverse on the
eleven bytes there, and both advance by those. Without it both fail where they stand. -/
theorem codec_is_bijective (order : ByteOrder) (buffer : Bytes) (offset : Nat) :
    (read order buffer offset =
      match (readAt order).run ⟨buffer, offset⟩ with
      | .ok message after => .ok (message, after.offset)
      | .error error _ => .error error) ∧
    (∀ message : Message, (message.encode order).length = 11 ∧
      message.write order buffer offset =
        match (message.writeAt order).run ⟨buffer, offset⟩ with
        | .ok _ after => (.ok after.offset, after.bytes)
        | .error error after => (.error error, after.bytes)) ∧
    (offset + 11 ≤ buffer.length →
      (∀ message : Message, ∃ written,
        (message.writeAt order).run ⟨buffer, offset⟩ = .ok () ⟨written, offset + 11⟩ ∧
        Bytes.Replaced buffer written offset (message.encode order) ∧
        (readAt order).run ⟨written, offset⟩ = .ok message ⟨written, offset + 11⟩) ∧
      ∃ message : Message,
        (readAt order).run ⟨buffer, offset⟩ = .ok message ⟨buffer, offset + 11⟩ ∧
        message.encode order = (buffer.drop offset).take 11 ∧
        (message.writeAt order).run ⟨buffer, offset⟩ = .ok () ⟨buffer, offset + 11⟩) ∧
    (buffer.length < offset + 11 → ∃ error : CodecError,
      (error = .badOffset offset ↔ buffer.length < offset) ∧
      (error = .incomplete ↔ offset ≤ buffer.length) ∧
      (readAt order).run ⟨buffer, offset⟩ = .error error ⟨buffer, offset⟩ ∧
      ∀ message : Message, ∃ written fitting,
        (message.writeAt order).run ⟨buffer, offset⟩ = .error error ⟨written, offset⟩ ∧
        Fitting message.fields (buffer.length - offset) fitting ∧
        Bytes.Replaced buffer written offset (encodeAll order fitting)) := by
  refine ⟨read_eq order buffer offset, fun message => ⟨message.encode_length order,
    message.write_eq order buffer offset⟩, fun room => ⟨fun message => ?_, ?_⟩, fun short => ?_⟩
  · have measured : (message.encode order).length = 11 := message.encode_length order
    have replaced : Bytes.Replaced buffer (Bytes.overwrite buffer offset (message.encode order))
        offset (message.encode order) :=
      Bytes.replaced_overwrite (by omega)
    refine ⟨_, message.writeAt_of_room order room, replaced, ?_⟩
    rw [readAt_of_room order (by rw [replaced.length]; exact room), ← decode_take, length,
      ← measured, replaced.inside, decode_encode]
  · have whole : ((buffer.drop offset).take length).length = length := by
      rw [List.length_take_of_le]
      rw [List.length_drop]
      exact Nat.le_sub_of_add_le' room
    have back : (decode order (buffer.drop offset)).encode order = (buffer.drop offset).take 11 := by
      rw [← decode_take, encode_decode order whole, length]
    refine ⟨_, readAt_of_room order room, back, ?_⟩
    rw [writeAt_of_room _ order room, back, Bytes.overwrite_slice]
    rfl
  · refine ⟨refusal buffer offset, refusal_badOffset, refusal_incomplete,
      readAt_of_short order short, fun message => ?_⟩
    obtain ⟨fitting, fits, written⟩ := message.writeAt_of_short order short
    refine ⟨_, fitting, written, fits, Bytes.replaced_overwrite ?_⟩
    obtain ⟨_, _, _, within, _⟩ := fits
    rw [encodeAll_length]
    exact within

/-- A request at an offset in a longer byte string, and one that is cut off after its second
field. -/
theorem codec_of_request :
    (∃ written,
      2 + 11 ≤ (List.replicate 14 9 : Bytes).length ∧
      ((request 5 1 2).writeAt .big).run ⟨List.replicate 14 9, 2⟩ = .ok () ⟨written, 13⟩ ∧
      (readAt .big).run ⟨written, 2⟩ = .ok (request 5 1 2) ⟨written, 13⟩ ∧
      written = [9, 9, 0x11, 0, 5, 0, 1, 0, 2, 0, 0, 0, 0, 9]) ∧
    (∃ error written fitting,
      (List.replicate 6 9 : Bytes).length < 2 + 11 ∧
      ((request 5 1 2).writeAt .big).run ⟨List.replicate 6 9, 2⟩ = .error error ⟨written, 2⟩ ∧
      Fitting (request 5 1 2).fields 4 fitting ∧
      error = .incomplete ∧ written = [9, 9, 0x11, 0, 5, 9]) := by
  have room : 2 + 11 ≤ (List.replicate 14 9 : Bytes).length := by decide
  have short : (List.replicate 6 9 : Bytes).length < 2 + 11 := by decide
  obtain ⟨written, wrote, -, reads⟩ :=
    ((codec_is_bijective .big (List.replicate 14 9) 2).2.2.1 room).1 (request 5 1 2)
  obtain ⟨error, -, incomplete, -, refused⟩ :=
    (codec_is_bijective .big (List.replicate 6 9) 2).2.2.2 short
  obtain ⟨left, fitting, stopped, fits, -⟩ := refused (request 5 1 2)
  refine ⟨⟨written, room, wrote, reads, ?_⟩,
    error, left, fitting, short, stopped, fits, incomplete.mpr (by decide), ?_⟩
  · cases wrote
    rfl
  · cases stopped
    rfl

end Ranging.Message

end UwbRadio
