import UwbRadio.Proofs.Bus.Writes
import UwbRadio.Register.Bits

/-!
Which accesses start the transmitter, and what has been written to the device by then. The
condition that a sequence of accesses starts nothing before the device is ready is computed
from the sequence, for whatever the registers hold that it modifies, and it is kept with
each transaction that goes through.
-/

namespace UwbRadio

namespace Written

def value (write : Written) : UInt64 :=
  UInt64.ofNat (Bytes.fromLittleEndian write.data)

def goesTo (write : Written) (register : Register) : Bool :=
  write.index == register.index && write.subAddress == register.subAddress

def startsTransmitter (write : Written) : Bool :=
  write.goesTo Register.systemControl && write.value &&& Bits.transmitStart != 0

end Written

def lastTo (register : Register) (written : List Written) : Option Written :=
  written.find? fun write => write.goesTo register

namespace Access

def Issues : Access → Option Written → Prop
  | .modify register keep set, issued => ∃ old, issued = register.writing? (old &&& keep ||| set)
  | access, issued => issued = access.written?

theorem start_modify {register : Register} {keep set : UInt64} {bus after : Bus}
    {remaining : Option Access}
    (performed : (Access.modify register keep set).start.perform bus = (.ok remaining, after)) :
    ∃ old, remaining = some (.write register (old &&& keep ||| set)) := by
  obtain ⟨old, _, _, returned⟩ := Operation.perform_bind_ok performed
  cases returned
  exact ⟨old, rfl⟩

end Access

/-- No access starts the transmitter before what has been written is enough for it. -/
def StartsReady (ready : List Written → Prop) : List Access → List Written → Prop
  | [], _ => True
  | access :: rest, written => ∀ write, access.Issues write →
      (write.any Written.startsTransmitter = true → ready written) ∧
        StartsReady ready rest (write.toList ++ written)

namespace StartsReady

variable {ready : List Written → Prop} {accesses rest : List Access} {written : List Written}

theorem advance {bus after : Bus} (holds : StartsReady ready accesses bus.written)
    (performed : (Access.advance accesses).perform bus = (.ok rest, after)) :
    StartsReady ready rest after.written := by
  cases accesses with
  | nil => cases performed; exact trivial
  | cons access others =>
      obtain ⟨remaining, started, rfl⟩ := Access.advance_cons_ok performed
      have wrote := access.start_written bus
      rw [started] at wrote
      dsimp only at wrote
      cases access with
      | write register value =>
          cases Access.start_remains started
          rw [wrote]
          exact (holds _ rfl).2
      | load register data =>
          cases Access.start_remains started
          rw [wrote]
          exact (holds _ rfl).2
      | modify register keep set =>
          obtain ⟨old, rfl⟩ := Access.start_modify started
          rintro write rfl
          rw [wrote]
          exact holds _ ⟨old, rfl⟩

theorem ready_of_start {write : Written} (holds : StartsReady ready accesses written)
    (writes : accesses.head?.bind Access.written? = some write)
    (starts : write.startsTransmitter = true) : ready written := by
  cases accesses with
  | nil => cases writes
  | cons access others =>
      have writes : access.written? = some write := writes
      have issues : access.Issues (some write) := by
        cases access with
        | modify register keep set => cases writes
        | _ => exact writes.symm
      exact (holds _ issues).1 starts

end StartsReady

end UwbRadio
