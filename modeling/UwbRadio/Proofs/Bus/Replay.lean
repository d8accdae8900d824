import UwbRadio.Proofs.Bus.Status

/-!
What the registers hold is what has been written to them. A device that is left alone
carries out the writes that reach it, in their order, and does nothing else.

`Bus.Transfers` is the form in which a fact about single transactions comes to hold of
whatever is done over the bus.
-/

namespace UwbRadio

def Written.apply (write : Written) (file : RegisterFile) : RegisterFile :=
  file.write write.index write.subAddress.toNat write.data

namespace Bus

/-- Every transaction leads from a bus to one that is so related to it. -/
structure Transfers (relates : Bus → Bus → Prop) : Prop where
  refl : ∀ bus, relates bus bus
  trans : ∀ {first second third}, relates first second → relates second third →
    relates first third
  read : ∀ header length bus, relates bus (Bus.read header length bus).2
  write : ∀ header data bus, relates bus (Bus.write header data bus).2

namespace Transfers

variable {relates : Bus → Bus → Prop} {bus after : Bus}

theorem advance (transfers : Transfers relates) {accesses : List Access}
    {result : Except (AccessError BusFault) (List Access)}
    (performed : (Access.advance accesses).perform bus = (result, after)) : relates bus after := by
  have kept := Access.advance_keeps relates transfers.refl transfers.trans transfers.read
    transfers.write accesses bus
  rw [performed] at kept
  exact kept

theorem value (transfers : Transfers relates) {register : Register}
    {result : Except (AccessError BusFault) UInt64}
    (performed : register.read.perform bus = (result, after)) : relates bus after := by
  have kept := Register.read_keeps relates transfers.refl transfers.trans transfers.read
    register bus
  rw [performed] at kept
  exact kept

theorem bytes (transfers : Transfers relates) {register : Register} {offset : UInt16}
    {length : Nat} {result : Except (AccessError BusFault) Bytes}
    (performed : (register.readPart offset length).perform bus = (result, after)) :
    relates bus after := by
  have kept := Register.readPart_keeps relates transfers.refl transfers.trans transfers.read
    register offset length bus
  rw [performed] at kept
  exact kept

theorem setValue (transfers : Transfers relates) {register : Register} {value : UInt64}
    {result : Except (AccessError BusFault) Unit}
    (performed : (register.write value).perform bus = (result, after)) : relates bus after := by
  have kept := Register.write_keeps relates transfers.refl transfers.trans transfers.write
    register value bus
  rw [performed] at kept
  exact kept

end Transfers

theorem loses_transfers : Transfers Loses where
  refl := fun _ _ shown => shown
  trans := fun first second bit shown => first bit (second bit shown)
  read := fun header length bus => loses_of_eq (read_registers header length bus)
  write := write_loses

/-- From one bus to the other the device has carried out what was written meanwhile. -/
def Replays (bus after : Bus) : Prop :=
  ∃ writes, after.written = writes ++ bus.written ∧
    after.registers = writes.foldr Written.apply bus.registers

theorem replays_of_eq {bus after : Bus} (written : after.written = bus.written)
    (registers : after.registers = bus.registers) : Replays bus after :=
  ⟨[], written, registers⟩

theorem write_replays (header data : Bytes) (bus : Bus) :
    Replays bus (Bus.write header data bus).2 := by
  have written := write_written header data bus
  have registers := write_registers header data bus
  cases result : (Bus.write header data bus).1 with
  | error fault =>
      rw [result] at written registers
      exact replays_of_eq written registers
  | ok done =>
      rw [result] at written registers
      refine ⟨_, written, registers.trans ?_⟩
      rw [Signal.written?]
      cases Command.decode? header with
      | none => rfl
      | some read => rfl

theorem replays_transfers : Transfers Replays where
  refl := fun _ => ⟨[], rfl, rfl⟩
  trans := by
    rintro first second third ⟨early, written, registers⟩ ⟨late, later, laterRegisters⟩
    refine ⟨late ++ early, ?_, ?_⟩
    · rw [later, written, List.append_assoc]
    · rw [laterRegisters, registers, List.foldr_append]
  read := fun header length bus =>
    replays_of_eq (read_written header length bus) (read_registers header length bus)
  write := write_replays

theorem Replays.registers {bus after : Bus} (replays : Replays bus after) (writes : List Written)
    (written : after.written = writes ++ bus.written) :
    after.registers = writes.foldr Written.apply bus.registers := by
  obtain ⟨others, same, registers⟩ := replays
  rw [written] at same
  rw [registers, List.append_cancel_right same]

end Bus

end UwbRadio
