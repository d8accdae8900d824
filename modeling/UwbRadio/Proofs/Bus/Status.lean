import UwbRadio.Proofs.Bus.Healthy

/-!
The event status across the bus. Reading changes nothing in the device, and a transfer
that fails changes nothing either. A write to the event status clears the bits that it
has set and leaves all others, and no other write touches it. So whatever is done over
the bus, a bit that shows afterwards has shown before.
-/

namespace UwbRadio

namespace Operation

variable {error α β : Type} {relates : Bus → Bus → Prop}

/-- However the operation turns out, the buses before and after it are so related. -/
def Keeps (relates : Bus → Bus → Prop) (operation : Operation error α) : Prop :=
  ∀ bus, relates bus (operation.perform bus).2

theorem Keeps.bind {operation : Operation error α} {next : α → Operation error β}
    (trans : ∀ {first second third}, relates first second → relates second third →
      relates first third)
    (begins : operation.Keeps relates) (goesOn : ∀ value, (next value).Keeps relates) :
    (operation >>= next).Keeps relates := by
  intro bus
  have first := begins bus
  rw [perform_bind]
  cases performed : operation.perform bus with
  | mk result middle =>
      rw [performed] at first
      cases result with
      | error fault => exact first
      | ok value => exact trans first (goesOn value middle)

end Operation

section transactions

open Operation RegisterOperation

variable (relates : Bus → Bus → Prop) (refl : ∀ bus, relates bus bus)
  (trans : ∀ {first second third}, relates first second → relates second third →
    relates first third)
  (reads : ∀ header length bus, relates bus (Bus.read header length bus).2)
  (writes : ∀ header data bus, relates bus (Bus.write header data bus).2)

include refl trans

include reads in
theorem RegisterOperation.readBytes_keeps (index : UInt8) (subAddress : UInt16) (length : Nat) :
    (readBytes index subAddress length).Keeps relates :=
  Keeps.bind trans refl fun header =>
    reads header length

include reads in
theorem Register.read_keeps (register : Register) : register.read.Keeps relates := by
  unfold Register.read readValue
  split
  · exact refl
  · refine Keeps.bind trans (readBytes_keeps relates refl trans reads _ _ _) ?_
    exact fun bytes bus => refl bus

include reads in
theorem Register.readPart_keeps (register : Register) (offset : UInt16) (length : Nat) :
    (register.readPart offset length).Keeps relates :=
  Keeps.bind trans refl fun _ => readBytes_keeps relates refl trans reads _ _ _

include writes

theorem RegisterOperation.writeBytes_keeps (index : UInt8) (subAddress : UInt16) (data : Bytes) :
    (writeBytes index subAddress data).Keeps relates :=
  Keeps.bind trans refl fun header =>
    writes header data

theorem Register.write_keeps (register : Register) (value : UInt64) :
    (register.write value).Keeps relates := by
  unfold Register.write writeValue
  split
  · exact refl
  · exact writeBytes_keeps relates refl trans writes _ _ _

include reads

theorem Access.start_keeps (access : Access) : access.start.Keeps relates := by
  cases access with
  | write register value =>
      exact Keeps.bind trans (register.write_keeps relates refl trans writes value) fun _ => refl
  | load register data =>
      refine Keeps.bind trans ?_ fun _ => refl
      exact Keeps.bind trans refl fun subAddress =>
        writeBytes_keeps relates refl trans writes _ _ _
  | modify register keep set =>
      exact Keeps.bind trans (register.read_keeps relates refl trans reads) fun _ => refl

theorem Access.advance_keeps (accesses : List Access) : (advance accesses).Keeps relates := by
  cases accesses with
  | nil => exact refl
  | cons access rest =>
      exact Keeps.bind trans (access.start_keeps relates refl trans reads writes) fun _ => refl

end transactions

namespace Bus

def events (bus : Bus) : UInt64 :=
  bus.registers.value Register.systemStatus

/-- Every bit that is shown afterwards has been shown before. -/
def Loses (bus after : Bus) : Prop :=
  ∀ bit, after.events.toNat.testBit bit = true → bus.events.toNat.testBit bit = true

theorem loses_of_eq {bus after : Bus} (same : after.registers = bus.registers) :
    Loses bus after := by
  intro bit shown
  rw [events, same] at shown
  exact shown

theorem read_registers (header : Bytes) (length : Nat) (bus : Bus) :
    (Bus.read header length bus).2.registers = bus.registers := by
  unfold Bus.read
  split
  · dsimp only
    split <;> rfl
  · rfl

theorem write_registers (header data : Bytes) (bus : Bus) :
    (Bus.write header data bus).2.registers =
      match (Bus.write header data bus).1, Command.decode? header with
      | .ok _, some (command, _) =>
          bus.registers.write command.index command.subAddress.toNat data
      | _, _ => bus.registers := by
  unfold Bus.write
  split
  · dsimp only
    split
    · rfl
    · cases Command.decode? header <;> rfl
  · rfl

theorem write_loses (header data : Bytes) (bus : Bus) :
    Loses bus (Bus.write header data bus).2 := by
  have written := write_registers header data bus
  split at written
  · rename_i command rest _ _
    intro bit shown
    rw [events, written] at shown
    exact bus.registers.testBit_status_of_write shown
  · exact loses_of_eq written

theorem read_data {index : UInt8} {length : Nat} {bus after : Bus} {data : Bytes}
    (known : index ≤ maxRegisterIndex)
    (read : Bus.read (Command.header ⟨.read, index, 0⟩) length bus = (.ok data, after)) :
    data = bus.registers.read index 0 length := by
  have within : (0 : UInt16).toNat ≤ maxSubAddress := Nat.zero_le _
  unfold Bus.read at read
  rw [Command.decode?_whole known within] at read
  split at read
  · dsimp only at read
    split at read
    · cases read
    · cases read
      rfl
  · cases read

end Bus

theorem RegisterOperation.writeBytes_transfer {index : UInt8} {data : Bytes} {bus : Bus}
    (known : index ≤ maxRegisterIndex) (fits : data.length ≤ maxSubAddress) :
    (writeBytes index 0 data).perform bus =
      ((Bus.write (Command.header ⟨.write, index, 0⟩) data bus).1.mapError AccessError.bus,
        (Bus.write (Command.header ⟨.write, index, 0⟩) data bus).2) := by
  have encoded : (encodeHeader index 0 data.length .write : Except (AccessError BusFault) Bytes) =
      .ok (Command.header ⟨.write, index, 0⟩) :=
    encodeHeader_eq_ok_iff.mpr ⟨known, by rw [UInt16.toNat_zero]; omega, rfl⟩
  rw [writeBytes, Operation.perform_bind, encoded]
  rfl

namespace Register

open RegisterOperation

variable {bus after : Bus} {value : UInt64}

theorem read_registers (register : Register) (bus : Bus) :
    (register.read.perform bus).2.registers = bus.registers :=
  register.read_keeps (fun bus after => after.registers = bus.registers) (fun _ => rfl)
    (fun begins goesOn => goesOn.trans begins) Bus.read_registers bus

theorem readPart_registers (register : Register) (offset : UInt16) (length : Nat) (bus : Bus) :
    ((register.readPart offset length).perform bus).2.registers = bus.registers :=
  register.readPart_keeps (fun bus after => after.registers = bus.registers) (fun _ => rfl)
    (fun begins goesOn => goesOn.trans begins) Bus.read_registers offset length bus

theorem read_value {register : Register} (start : register.subAddress = 0)
    (performed : register.read.perform bus = (.ok value, after)) :
    value = bus.registers.value register := by
  obtain ⟨bytes, ran, rfl⟩ := read_ok performed
  rw [start] at ran
  obtain ⟨known, inside, read⟩ := readBytes_ok ran
  rw [Bus.read_data known read, RegisterFile.value, start]
  rfl

theorem status_read {status : UInt64}
    (performed : systemStatus.read.perform bus = (.ok status, after)) : status = bus.events :=
  read_value rfl performed

private theorem status_transfer (bus : Bus) (value : UInt64) :
    (systemStatus.write value).perform bus =
      ((Bus.write (Command.header ⟨.write, systemStatus.index, 0⟩)
          (Bytes.littleEndian 4 value.toNat) bus).1.mapError AccessError.bus,
        (Bus.write (Command.header ⟨.write, systemStatus.index, 0⟩)
          (Bytes.littleEndian 4 value.toNat) bus).2) := by
  have known : systemStatus.index ≤ maxRegisterIndex := by decide
  have fits : (Bytes.littleEndian 4 value.toNat).length ≤ maxSubAddress := by
    rw [Bytes.littleEndian_length]
    decide
  exact writeBytes_transfer known fits

theorem status_cleared {done : Unit}
    (performed : (systemStatus.write value).perform bus = (.ok done, after)) :
    after.events = bus.events &&& ~~~value := by
  have written := Bus.write_registers
    (Command.header ⟨.write, systemStatus.index, 0⟩) (Bytes.littleEndian 4 value.toNat) bus
  have within : (0 : UInt16).toNat ≤ maxSubAddress := Nat.zero_le _
  rw [Command.decode?_whole (by decide) within] at written
  rw [status_transfer] at performed
  cases transferred : Bus.write (Command.header ⟨.write, systemStatus.index, 0⟩)
      (Bytes.littleEndian 4 value.toNat) bus with
  | mk result later =>
      rw [transferred] at performed written
      cases result with
      | error fault => cases performed
      | ok done =>
          cases performed
          rw [Bus.events, written]
          exact bus.registers.status_of_write value

theorem status_uncleared {fault : AccessError BusFault}
    (performed : (systemStatus.write value).perform bus = (.error fault, after)) :
    after.registers = bus.registers := by
  have written := Bus.write_registers
    (Command.header ⟨.write, systemStatus.index, 0⟩) (Bytes.littleEndian 4 value.toNat) bus
  rw [status_transfer] at performed
  cases transferred : Bus.write (Command.header ⟨.write, systemStatus.index, 0⟩)
      (Bytes.littleEndian 4 value.toNat) bus with
  | mk result later =>
      rw [transferred] at performed written
      cases result with
      | error fault => cases performed; exact written
      | ok done => cases performed

end Register

end UwbRadio
