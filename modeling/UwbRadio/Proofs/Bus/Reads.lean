import UwbRadio.Proofs.Bus.Writes
import UwbRadio.Proofs.Register.File

/-!
What has been read from the device, as it went over the bus. The value of a register
access is made of the bytes of its own read and of nothing else.
-/

namespace UwbRadio

def Signal.readFrom? (register : Register) : Signal → Option Bytes
  | .read header data =>
      if Command.decode? header = some (⟨.read, register.index, 0⟩, []) then some data else none
  | _ => none

namespace Bus

def lastRead? (register : Register) (bus : Bus) : Option Bytes :=
  bus.trace.head?.bind fun entry => entry.2.readFrom? register

theorem read_ok {header data : Bytes} {length : Nat} {bus after : Bus}
    (read : Bus.read header length bus = (.ok data, after)) :
    after.trace = (bus.clock, .read header data) :: bus.trace ∧ data.length = length := by
  unfold Bus.read at read
  split at read
  · dsimp only at read
    split at read
    · cases read
    · cases read
      refine ⟨rfl, ?_⟩
      split
      · exact RegisterFile.read_length _ _ _ _
      · exact List.length_replicate
  · cases read

end Bus

theorem Operation.perform_ofBus {α : Type} (use : Bus → Except BusFault α × Bus) (bus : Bus) :
    (Operation.ofBus use).perform bus = ((use bus).1.mapError AccessError.bus, (use bus).2) := rfl

namespace RegisterOperation

theorem readBytes_ok {index : UInt8} {subAddress : UInt16} {length : Nat} {bus after : Bus}
    {bytes : Bytes}
    (performed : (readBytes index subAddress length).perform bus = (.ok bytes, after)) :
    index ≤ maxRegisterIndex ∧ subAddress.toNat + length ≤ maxSubAddress ∧
      Bus.read (Command.header ⟨.read, index, subAddress⟩) length bus = (.ok bytes, after) := by
  unfold readBytes at performed
  rw [Operation.perform_bind] at performed
  cases encoded :
      (encodeHeader index subAddress length .read : Except (AccessError BusFault) Bytes) with
  | error fault => rw [encoded] at performed; cases performed
  | ok header =>
      rw [encoded] at performed
      obtain ⟨known, inside, rfl⟩ := encodeHeader_eq_ok_iff.mp encoded
      refine ⟨known, inside, ?_⟩
      have ran : (Operation.ofBus (Bus.read _ length)).perform bus = (.ok bytes, after) := performed
      rw [Operation.perform_ofBus] at ran
      cases read : Bus.read (Command.header ⟨.read, index, subAddress⟩) length bus with
      | mk result later =>
          rw [read] at ran
          cases result with
          | error fault => cases ran
          | ok data => cases ran; rfl

theorem readBytes_length {index : UInt8} {subAddress : UInt16} {length : Nat} {bus after : Bus}
    {bytes : Bytes}
    (performed : (readBytes index subAddress length).perform bus = (.ok bytes, after)) :
    bytes.length = length :=
  (Bus.read_ok (readBytes_ok performed).2.2).2

theorem readBytes_lastRead? {register : Register} {length : Nat} {bus after : Bus} {bytes : Bytes}
    (performed : (readBytes register.index 0 length).perform bus = (.ok bytes, after)) :
    after.lastRead? register = some bytes := by
  obtain ⟨known, inside, read⟩ := readBytes_ok performed
  have within : (0 : UInt16).toNat ≤ maxSubAddress := Nat.zero_le _
  rw [Bus.lastRead?, (Bus.read_ok read).1, List.head?_cons, Option.bind_some, Signal.readFrom?,
    Command.decode?_whole known within]
  exact if_pos rfl

end RegisterOperation

namespace Register

open RegisterOperation

theorem readPart_ok {register : Register} {length : Nat} {bus after : Bus} {bytes : Bytes}
    (performed : (register.readPart 0 length).perform bus = (.ok bytes, after)) :
    (readBytes register.index register.subAddress length).perform bus = (.ok bytes, after) := by
  unfold readPart at performed
  rw [Operation.perform_bind] at performed
  cases placed : (register.part 0 length : Except (AccessError BusFault) UInt16) with
  | error fault => rw [placed] at performed; cases performed
  | ok subAddress =>
      rw [placed, eq_of_part_zero placed] at performed
      exact performed

theorem readPart_length {register : Register} {length : Nat} {bus after : Bus} {bytes : Bytes}
    (performed : (register.readPart 0 length).perform bus = (.ok bytes, after)) :
    bytes.length = length :=
  readBytes_length (readPart_ok performed)

theorem readPart_lastRead? {register : Register} {length : Nat} {bus after : Bus} {bytes : Bytes}
    (start : register.subAddress = 0)
    (performed : (register.readPart 0 length).perform bus = (.ok bytes, after)) :
    after.lastRead? register = some bytes := by
  have ran := readPart_ok performed
  rw [start] at ran
  exact readBytes_lastRead? ran

theorem read_ok {register : Register} {bus after : Bus} {value : UInt64}
    (performed : register.read.perform bus = (.ok value, after)) :
    ∃ bytes, (readBytes register.index register.subAddress register.width).perform bus =
        (.ok bytes, after) ∧ value = UInt64.ofNat (Bytes.fromLittleEndian bytes) := by
  unfold read readValue at performed
  split at performed
  · cases performed
  · obtain ⟨bytes, _, ran, returned⟩ := Operation.perform_bind_ok performed
    cases returned
    exact ⟨bytes, ran, rfl⟩

end Register

end UwbRadio
