import UwbRadio.Proofs.Bytes
import UwbRadio.Ranging.Message

/-!
A ranging message written in either byte order is read back as it was, and takes eleven
bytes. Any eleven bytes are those of a message. What follows them is not looked at.
-/

namespace UwbRadio.Ranging.Message

theorem encode_length (message : Message) (order : ByteOrder) :
    (message.encode order).length = length := by
  simp [encode, fields, length]

theorem decode_encode (message : Message) (order : ByteOrder) :
    decode order (message.encode order) = message := by
  obtain ⟨code, master, first, second, timeOfFlight⟩ := message
  have codes : order.decode (order.encode 1 code.toNat) = code.toNat := by
    rw [order.decode_encode]
    exact Nat.mod_eq_of_lt code.toNat_lt
  have addresses (address : UInt16) :
      order.decode (order.encode 2 address.toNat) = address.toNat := by
    rw [order.decode_encode]
    exact Nat.mod_eq_of_lt address.toNat_lt
  have times : order.decode (order.encode 4 timeOfFlight.toNat) = timeOfFlight.toNat := by
    rw [order.decode_encode]
    exact Nat.mod_eq_of_lt timeOfFlight.toNat_lt
  simp [decode, encode, fields, List.drop_append, List.drop_eq_nil_of_le, List.take_of_length_le,
    codes, addresses, times]

theorem encode_decode (order : ByteOrder) {bytes : Bytes} (whole : bytes.length = length) :
    (decode order bytes).encode order = bytes := by
  have field {width start : Nat} (inside : start + width ≤ length) :
      order.encode width (order.decode ((bytes.drop start).take width) % 256 ^ width) =
        (bytes.drop start).take width := by
    refine order.encode_decode_mod ?_
    rw [List.length_take, List.length_drop]
    omega
  have byte (value : Nat) : (UInt8.ofNat value).toNat = value % 256 ^ 1 := UInt8.toNat_ofNat'
  have half (value : Nat) : (UInt16.ofNat value).toNat = value % 256 ^ 2 := UInt16.toNat_ofNat'
  have word (value : Nat) : (UInt32.ofNat value).toNat = value % 256 ^ 4 := UInt32.toNat_ofNat'
  have joined (start width : Nat) :
      (bytes.drop start).take width ++ bytes.drop (start + width) = bytes.drop start := by
    rw [← List.drop_drop, List.take_append_drop]
  have last : (bytes.drop 7).take 4 = bytes.drop 7 :=
    List.take_of_length_le (by rw [List.length_drop, whole]; decide)
  rw [encode, fields, decode]
  simp only [List.flatMap_cons, List.flatMap_nil, List.append_nil, byte, half, word]
  rw [field (by decide), field (by decide), field (by decide), field (by decide),
    field (by decide), last, joined 5 2, joined 3 2, joined 1 2, joined 0 1, List.drop_zero]

theorem decode_take (order : ByteOrder) (bytes : Bytes) :
    decode order (bytes.take length) = decode order bytes := by
  simp only [decode, length, List.drop_take, List.take_take]
  rfl

theorem read_zero (order : ByteOrder) (bytes : Bytes) :
    read order bytes 0 =
      if bytes.length < length then .error .incomplete else .ok (decode order bytes, length) := by
  rw [read, if_neg (Nat.not_lt_zero _), Nat.sub_zero, List.drop_zero, Nat.zero_add]

theorem read_encode (message : Message) (order : ByteOrder) :
    read order (message.encode order) 0 = .ok (message, length) := by
  rw [read_zero, encode_length, if_neg (Nat.lt_irrefl _), decode_encode]

end UwbRadio.Ranging.Message
