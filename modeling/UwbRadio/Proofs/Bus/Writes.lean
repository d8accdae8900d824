import UwbRadio.Proofs.Register.Header
import UwbRadio.Register.Access

/-!
What has been written to the device, as the device reads it off the bus. A read or a
failed transfer writes nothing, and a register access that goes through writes its
own value and nothing else.
-/

namespace UwbRadio

/-- A write that went through: from where on, in which register, and what. -/
structure Written where
  index : UInt8
  subAddress : UInt16
  data : Bytes
  deriving DecidableEq

def Signal.written? : Signal → Option Written
  | .write header data =>
      (Command.decode? header).map fun read => ⟨read.1.index, read.1.subAddress, data⟩
  | _ => none

namespace Operation

variable {error α β : Type}

theorem perform_bind (operation : Operation error α) (next : α → Operation error β) (bus : Bus) :
    (operation >>= next).perform bus =
      match operation.perform bus with
      | (.ok value, after) => (next value).perform after
      | (.error fault, after) => (.error fault, after) := by
  unfold perform ExceptT.run StateT.run
  simp only [bind, ExceptT.bind, ExceptT.mk, StateT.bind, ExceptT.bindCont]
  cases operation bus with
  | mk result after => cases result <;> rfl

theorem perform_bind_ok {operation : Operation error α} {next : α → Operation error β}
    {bus after : Bus} {value : β}
    (performed : (operation >>= next).perform bus = (.ok value, after)) :
    ∃ first middle, operation.perform bus = (.ok first, middle) ∧
      (next first).perform middle = (.ok value, after) := by
  rw [perform_bind] at performed
  split at performed
  · rename_i first middle ran
    exact ⟨first, middle, ran, performed⟩
  · cases performed

end Operation

namespace Bus

def written (bus : Bus) : List Written :=
  bus.trace.filterMap fun entry => entry.2.written?

theorem record_written (bus : Bus) (signal : Signal) :
    (bus.record signal).written = signal.written?.toList ++ bus.written := by
  have cons : (bus.record signal).written =
      ((bus.clock, signal) :: bus.trace).filterMap fun entry => entry.2.written? := rfl
  rw [cons, List.filterMap_cons]
  cases signal.written? with
  | none => rfl
  | some write => rfl

theorem attempt_written (bus : Bus) : bus.attempt.2.written = bus.written := rfl

theorem read_written (header : Bytes) (length : Nat) (bus : Bus) :
    (Bus.read header length bus).2.written = bus.written := by
  unfold Bus.read
  split
  · dsimp only
    split
    · exact (record_written _ _).trans bus.attempt_written
    · exact (record_written _ _).trans bus.attempt_written
  · rfl

theorem write_written (header data : Bytes) (bus : Bus) :
    (Bus.write header data bus).2.written =
      match (Bus.write header data bus).1 with
      | .ok _ => (Signal.write header data).written?.toList ++ bus.written
      | .error _ => bus.written := by
  unfold Bus.write
  split
  · dsimp only
    split
    · exact (record_written _ _).trans bus.attempt_written
    · rw [record_written]
      rfl
  · rfl

end Bus

def writing? (index : UInt8) (subAddress : UInt16) (data : Bytes) : Option Written :=
  match (encodeHeader index subAddress data.length .write : Except (AccessError BusFault) Bytes) with
  | .ok header => (Signal.write header data).written?
  | .error _ => none

theorem index_of_writing? {index : UInt8} {subAddress : UInt16} {data : Bytes} {write : Written}
    (writes : writing? index subAddress data = some write) : write.index = index := by
  unfold writing? at writes
  split at writes
  · rename_i header encoded
    obtain ⟨read, decoded, rfl⟩ := Option.map_eq_some_iff.mp writes
    obtain ⟨known, inside, rfl⟩ := encodeHeader_eq_ok_iff.mp encoded
    have within : subAddress.toNat ≤ maxSubAddress := Nat.le_trans (Nat.le_add_right _ _) inside
    rw [Command.decode?_whole known within] at decoded
    cases decoded
    rfl
  · cases writes

theorem writing?_start (index : UInt8) (data : Bytes) (known : index ≤ maxRegisterIndex)
    (fits : data.length ≤ maxSubAddress) : writing? index 0 data = some ⟨index, 0, data⟩ := by
  have zero : (0 : UInt16).toNat = 0 := rfl
  have encoded : (encodeHeader index 0 data.length .write : Except (AccessError BusFault) Bytes) =
      .ok (Command.header ⟨.write, index, 0⟩) :=
    encodeHeader_eq_ok_iff.mpr ⟨known, by omega, rfl⟩
  rw [writing?, encoded]
  dsimp only
  rw [Signal.written?, Command.decode?_whole known (Nat.zero_le _)]
  rfl

namespace RegisterOperation

theorem readBytes_written (index : UInt8) (subAddress : UInt16) (length : Nat) (bus : Bus) :
    ((readBytes index subAddress length).perform bus).2.written = bus.written := by
  unfold readBytes
  rw [Operation.perform_bind]
  cases (encodeHeader index subAddress length .read : Except (AccessError BusFault) Bytes) with
  | error fault => rfl
  | ok header => exact Bus.read_written header length bus

theorem readValue_written (index : UInt8) (subAddress : UInt16) (width : Nat) (bus : Bus) :
    ((readValue index subAddress width).perform bus).2.written = bus.written := by
  unfold readValue
  split
  · rfl
  · have read := readBytes_written index subAddress width bus
    rw [Operation.perform_bind]
    cases performed : (readBytes index subAddress width).perform bus with
    | mk result after =>
        rw [performed] at read
        cases result with
        | error fault => exact read
        | ok bytes => exact read

theorem writeBytes_written (index : UInt8) (subAddress : UInt16) (data : Bytes) (bus : Bus) :
    ((writeBytes index subAddress data).perform bus).2.written =
      match ((writeBytes index subAddress data).perform bus).1 with
      | .ok _ => (writing? index subAddress data).toList ++ bus.written
      | .error _ => bus.written := by
  unfold writeBytes writing?
  rw [Operation.perform_bind]
  cases encodeHeader index subAddress data.length .write with
  | error fault => rfl
  | ok header =>
      have written := Bus.write_written header data bus
      have performed : (Operation.ofBus (Bus.write header data)).perform bus =
          ((Bus.write header data bus).1.mapError AccessError.bus,
            (Bus.write header data bus).2) := rfl
      have passed : (Operation.ofExcept (.ok header) :
          RegisterOperation Bytes).perform bus = (.ok header, bus) := rfl
      rw [passed]
      dsimp only
      rw [performed]
      cases result : (Bus.write header data bus).1 with
      | error fault => rw [result] at written; exact written
      | ok done => rw [result] at written; exact written

end RegisterOperation

namespace Register

open RegisterOperation

theorem read_written (register : Register) (bus : Bus) :
    (register.read.perform bus).2.written = bus.written :=
  readValue_written _ _ _ bus

theorem readPart_written (register : Register) (offset : UInt16) (length : Nat) (bus : Bus) :
    ((register.readPart offset length).perform bus).2.written = bus.written := by
  unfold readPart
  rw [Operation.perform_bind]
  cases (register.part offset length : Except (AccessError BusFault) UInt16) with
  | error fault => rfl
  | ok subAddress => exact readBytes_written _ _ _ bus

def writing? (register : Register) (value : UInt64) : Option Written :=
  UwbRadio.writing? register.index register.subAddress
    (Bytes.littleEndian register.width value.toNat)

theorem write_written (register : Register) (value : UInt64) (bus : Bus) :
    ((register.write value).perform bus).2.written =
      match ((register.write value).perform bus).1 with
      | .ok _ => (register.writing? value).toList ++ bus.written
      | .error _ => bus.written := by
  unfold write writeValue
  split
  · rfl
  · exact writeBytes_written _ _ _ bus

theorem writing?_whole {register : Register} (known : register.index ≤ maxRegisterIndex)
    (whole : register.subAddress = 0) (fits : register.width ≤ maxSubAddress) (value : UInt64) :
    register.writing? value =
      some ⟨register.index, 0, Bytes.littleEndian register.width value.toNat⟩ := by
  rw [writing?, whole]
  apply writing?_start register.index _ known
  rw [Bytes.littleEndian_length]
  exact fits

theorem eq_of_part_zero {fault : Type} {register : Register} {length : Nat} {subAddress : UInt16}
    (placed : (register.part 0 length : Except (AccessError fault) UInt16) = .ok subAddress) :
    subAddress = register.subAddress := by
  unfold part at placed
  split at placed
  · cases placed
  · split at placed
    · cases placed
    · cases placed
      exact UInt16.add_zero _

theorem writePart_written (register : Register) (data : Bytes) (bus : Bus) :
    ((register.writePart 0 data).perform bus).2.written =
      match ((register.writePart 0 data).perform bus).1 with
      | .ok _ => (UwbRadio.writing? register.index register.subAddress data).toList ++ bus.written
      | .error _ => bus.written := by
  unfold writePart
  rw [Operation.perform_bind]
  cases placed : (register.part 0 data.length : Except (AccessError BusFault) UInt16) with
  | error fault => rfl
  | ok subAddress =>
      cases eq_of_part_zero placed
      exact writeBytes_written _ _ _ bus

end Register

namespace Access

def written? : Access → Option Written
  | .write register value => register.writing? value
  | .load register data => writing? register.index register.subAddress data
  | .modify _ _ _ => none

def register : Access → Register
  | .write register _ | .load register _ | .modify register _ _ => register

theorem index_of_written? {access : Access} {write : Written}
    (writes : access.written? = some write) : write.index = access.register.index := by
  cases access with
  | write register value => exact index_of_writing? writes
  | load register data => exact index_of_writing? writes
  | modify register keep set => cases writes

/-- What may be left of an access after its first bus transaction. -/
inductive Remains : Access → Option Access → Prop
  | written {register value} : Remains (.write register value) none
  | loaded {register data} : Remains (.load register data) none
  | read {register keep set} (value : UInt64) :
      Remains (.modify register keep set) (some (.write register value))

theorem Remains.register_eq {access left : Access} (remains : access.Remains (some left)) :
    left.register = access.register := by
  cases remains
  rfl

theorem start_written (access : Access) (bus : Bus) :
    (access.start.perform bus).2.written =
      match (access.start.perform bus).1 with
      | .ok _ => access.written?.toList ++ bus.written
      | .error _ => bus.written := by
  cases access with
  | write register value =>
      have written := register.write_written value bus
      unfold start
      dsimp only
      rw [Operation.perform_bind]
      cases performed : (register.write value).perform bus with
      | mk result after =>
          rw [performed] at written
          cases result with
          | error fault => exact written
          | ok done => exact written
  | load register data =>
      have written := register.writePart_written data bus
      unfold start
      dsimp only
      rw [Operation.perform_bind]
      cases performed : (register.writePart 0 data).perform bus with
      | mk result after =>
          rw [performed] at written
          cases result with
          | error fault => exact written
          | ok done => exact written
  | modify register keep set =>
      have read := register.read_written bus
      unfold start
      dsimp only
      rw [Operation.perform_bind]
      cases performed : register.read.perform bus with
      | mk result after =>
          rw [performed] at read
          cases result with
          | error fault => exact read
          | ok value => exact read

theorem start_remains {access : Access} {bus after : Bus} {remaining : Option Access}
    (performed : access.start.perform bus = (.ok remaining, after)) :
    access.Remains remaining := by
  cases access with
  | write register value =>
      obtain ⟨_, _, _, returned⟩ := Operation.perform_bind_ok performed
      cases returned
      exact .written
  | load register data =>
      obtain ⟨_, _, _, returned⟩ := Operation.perform_bind_ok performed
      cases returned
      exact .loaded
  | modify register keep set =>
      obtain ⟨_, _, _, returned⟩ := Operation.perform_bind_ok performed
      cases returned
      exact .read _

theorem advance_cons_ok {access : Access} {rest left : List Access} {bus after : Bus}
    (performed : (advance (access :: rest)).perform bus = (.ok left, after)) :
    ∃ remaining, access.start.perform bus = (.ok remaining, after) ∧
      left = remaining.toList ++ rest := by
  obtain ⟨remaining, _, started, returned⟩ := Operation.perform_bind_ok performed
  cases returned
  exact ⟨remaining, started, rfl⟩

theorem advance_ok {access : Access} {rest left : List Access} {bus after : Bus}
    (performed : (advance (access :: rest)).perform bus = (.ok left, after)) :
    after.written = access.written?.toList ++ bus.written ∧
      ∃ remaining, access.Remains remaining ∧ left = remaining.toList ++ rest := by
  obtain ⟨remaining, started, same⟩ := advance_cons_ok performed
  have written := access.start_written bus
  rw [started] at written
  exact ⟨written, remaining, start_remains started, same⟩

theorem advance_registers {holds : Register → Prop} {accesses rest : List Access} {bus after : Bus}
    (all : ∀ access ∈ accesses, holds access.register)
    (performed : (advance accesses).perform bus = (.ok rest, after)) :
    ∀ left ∈ rest, holds left.register := by
  cases accesses with
  | nil => cases performed; exact all
  | cons access others =>
      obtain ⟨_, remaining, remains, rfl⟩ := advance_ok performed
      intro left member
      rcases List.mem_append.mp member with new | old
      · rw [Option.mem_toList] at new
        cases new
        rw [remains.register_eq]
        exact all access List.mem_cons_self
      · exact all left (List.mem_cons_of_mem access old)

def Whole (access : Access) : Prop :=
  ∀ left, ¬access.Remains (some left)

theorem whole_write (register : Register) (value : UInt64) : (write register value).Whole := nofun

theorem advance_whole {accesses rest : List Access} {bus after : Bus}
    (whole : ∀ access ∈ accesses, access.Whole)
    (performed : (advance accesses).perform bus = (.ok rest, after)) : rest = accesses.tail := by
  cases accesses with
  | nil => cases performed; rfl
  | cons access others =>
      obtain ⟨_, remaining, remains, rfl⟩ := advance_ok performed
      cases remaining with
      | none => rfl
      | some left => exact absurd remains (whole access List.mem_cons_self left)

theorem advance_error {accesses : List Access} {fault : AccessError BusFault} {bus after : Bus}
    (performed : (advance accesses).perform bus = (.error fault, after)) :
    after.written = bus.written := by
  cases accesses with
  | nil => cases performed
  | cons access rest =>
      unfold advance at performed
      rw [Operation.perform_bind] at performed
      have written := access.start_written bus
      split at performed
      · cases performed
      · rename_i middle started
        cases performed
        rw [started] at written
        exact written

end Access

end UwbRadio
