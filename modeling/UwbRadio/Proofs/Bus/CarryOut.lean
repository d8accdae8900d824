import UwbRadio.Proofs.Bus.Healthy
import UwbRadio.Proofs.Bus.Replay

/-!
What a sequence of register accesses makes of the registers. While nobody else uses the bus
and the device does nothing but latch events, this is settled when the sequence begins: what
the accesses that are left make of the registers is what all of them make of what the
registers held at first, but for the event status.
-/

namespace UwbRadio

namespace RegisterFile

theorem read_write (file : RegisterFile) {index : UInt8}
    (apart : index ≠ Register.systemStatus.index) (data : Bytes) :
    (file.write index 0 data).read index 0 data.length = data := by
  rw [write, if_neg apart, read, store, block_withBlock, Bytes.overwrite, List.take_zero,
    List.nil_append, List.drop_zero, List.take_left' rfl, padded, Nat.sub_self,
    List.replicate_zero, List.append_nil]

theorem value_write (file : RegisterFile) {register : Register} (start : register.subAddress = 0)
    (apart : register.index ≠ Register.systemStatus.index) {data : Bytes}
    (whole : data.length = register.width) :
    (file.write register.index 0 data).value register =
      UInt64.ofNat (Bytes.fromLittleEndian data) := by
  rw [value, start, ← whole]
  exact congrArg (fun bytes => UInt64.ofNat (Bytes.fromLittleEndian bytes))
    (file.read_write apart data)

theorem value_write_other (file : RegisterFile) {register : Register} {index : UInt8}
    (apart : register.index ≠ index) (data : Bytes) :
    (file.write index 0 data).value register = file.value register := by
  rw [value, value, read_write_other _ _ _ apart]

/-- Both hold the same, except that events may have been latched or cleared. -/
def SameButEvents (file other : RegisterFile) : Prop :=
  ∀ index, index ≠ Register.systemStatus.index → file.block index = other.block index

section

variable {file other third : RegisterFile}

theorem sameButEvents_refl (file : RegisterFile) : file.SameButEvents file :=
  fun _ _ => rfl

theorem SameButEvents.trans (first : file.SameButEvents other)
    (second : other.SameButEvents third) : file.SameButEvents third :=
  fun index apart => (first index apart).trans (second index apart)

theorem SameButEvents.read (same : file.SameButEvents other) {index : UInt8}
    (apart : index ≠ Register.systemStatus.index) (address length : Nat) :
    file.read index address length = other.read index address length := by
  rw [RegisterFile.read, RegisterFile.read, same index apart]

theorem SameButEvents.value (same : file.SameButEvents other) {register : Register}
    (apart : register.index ≠ Register.systemStatus.index) :
    file.value register = other.value register := by
  rw [RegisterFile.value, RegisterFile.value, same.read apart]

theorem SameButEvents.write (same : file.SameButEvents other) {index : UInt8}
    (apart : index ≠ Register.systemStatus.index) (address : Nat) (data : Bytes) :
    (file.write index address data).SameButEvents (other.write index address data) := by
  intro place elsewhere
  rw [RegisterFile.write, RegisterFile.write, if_neg apart, if_neg apart, store, store]
  by_cases here : place = index
  · subst here
    rw [block_withBlock, block_withBlock, same place apart]
  · rw [block_withBlock_other _ _ here, block_withBlock_other _ _ here]
    exact same place elsewhere

def withoutEvents (file : RegisterFile) : RegisterFile :=
  file.withBlock Register.systemStatus.index []

theorem sameButEvents_of_blocks (same : file.withoutEvents.blocks = other.withoutEvents.blocks) :
    file.SameButEvents other := by
  intro index apart
  have files : file.withoutEvents = other.withoutEvents := congrArg RegisterFile.mk same
  rw [← block_withBlock_other file [] apart, ← block_withBlock_other other [] apart]
  exact congrArg (·.block index) files

end

end RegisterFile

namespace Access

def apply (file : RegisterFile) : Access → RegisterFile
  | .write register value =>
      file.write register.index 0 (Bytes.littleEndian register.width value.toNat)
  | .load register data => file.write register.index 0 data
  | .modify register keep set =>
      file.write register.index 0
        (Bytes.littleEndian register.width (file.value register &&& keep ||| set).toNat)

def applyAll (accesses : List Access) (file : RegisterFile) : RegisterFile :=
  accesses.foldl apply file

theorem apply_sameButEvents {access : Access} {file other : RegisterFile}
    (apart : access.register.index ≠ Register.systemStatus.index)
    (same : file.SameButEvents other) :
    (access.apply file).SameButEvents (access.apply other) := by
  cases access with
  | write register value => exact same.write apart 0 _
  | load register data => exact same.write apart 0 data
  | modify register keep set =>
      have value : file.value register = other.value register := same.value apart
      rw [apply, apply, value]
      exact same.write apart 0 _

theorem applyAll_sameButEvents {accesses : List Access} {file other : RegisterFile}
    (apart : ∀ access ∈ accesses, access.register.index ≠ Register.systemStatus.index)
    (same : file.SameButEvents other) :
    (applyAll accesses file).SameButEvents (applyAll accesses other) := by
  induction accesses generalizing file other with
  | nil => exact same
  | cons access rest ih =>
      exact ih (fun later member => apart later (List.mem_cons_of_mem _ member))
        (apply_sameButEvents (apart access List.mem_cons_self) same)

theorem value_apply_other {access : Access} (file : RegisterFile) {register : Register}
    (apart : register.index ≠ access.register.index) :
    (access.apply file).value register = file.value register := by
  cases access <;> exact file.value_write_other apart _

theorem read_apply_other {access : Access} (file : RegisterFile) {index : UInt8}
    (apart : index ≠ access.register.index) (address length : Nat) :
    (access.apply file).read index address length = file.read index address length := by
  cases access <;> exact file.read_write_other 0 _ apart address length

theorem value_applyAll_other {accesses : List Access} {register : Register}
    (apart : ∀ access ∈ accesses, register.index ≠ access.register.index) (file : RegisterFile) :
    (applyAll accesses file).value register = file.value register := by
  induction accesses generalizing file with
  | nil => rfl
  | cons access rest ih =>
      have later := ih (fun other member => apart other (List.mem_cons_of_mem _ member))
        (access.apply file)
      exact later.trans (value_apply_other file (apart access List.mem_cons_self))

theorem read_applyAll_other {accesses : List Access} {index : UInt8}
    (apart : ∀ access ∈ accesses, index ≠ access.register.index) (file : RegisterFile)
    (address length : Nat) :
    (applyAll accesses file).read index address length =
      file.read index address length := by
  induction accesses generalizing file with
  | nil => rfl
  | cons access rest ih =>
      have later := ih (fun other member => apart other (List.mem_cons_of_mem _ member))
        (access.apply file)
      exact later.trans (read_apply_other file (apart access List.mem_cons_self) address length)

theorem start_replays {access : Access} {bus after : Bus} {remaining : Option Access}
    (performed : access.start.perform bus = (.ok remaining, after)) : Bus.Replays bus after := by
  have transfers := Bus.replays_transfers
  have kept := access.start_keeps Bus.Replays transfers.refl transfers.trans transfers.read
    transfers.write bus
  rw [performed] at kept
  exact kept

/-- A transaction of an access makes of the registers what leaves the rest of the access to
be made. -/
theorem start_apply {access : Access} {bus after : Bus} {remaining : Option Access}
    (plain : access.Plain) (performed : access.start.perform bus = (.ok remaining, after)) :
    applyAll remaining.toList after.registers = access.apply bus.registers ∧
      ∀ left ∈ remaining, left.Plain := by
  have replays := start_replays performed
  have written := access.start_written bus
  rw [performed] at written
  cases access with
  | write register value =>
      have issued := register.writing?_whole plain.1.known plain.1.start plain.1.inside value
      rw [written?, issued] at written
      cases start_remains performed
      exact ⟨replays.registers [_] written, nofun⟩
  | load register data =>
      have issued := writing?_start register.index data plain.1.known
        (Nat.le_trans plain.2 plain.1.inside)
      rw [written?, plain.1.start, issued] at written
      cases start_remains performed
      exact ⟨replays.registers [_] written, nofun⟩
  | modify register keep set =>
      have kept : after.registers = bus.registers := replays.registers [] written
      obtain ⟨value, middle, read, returned⟩ := Operation.perform_bind_ok performed
      cases returned
      refine ⟨?_, ?_⟩
      · rw [apply, ← Register.read_value plain.1.start read, ← kept]
        rfl
      · rintro left ⟨⟩
        exact plain

/-- What the accesses that are left make of the registers is what all of them would have
made of them before. -/
theorem advance_apply {accesses rest : List Access} {bus after : Bus}
    (plain : ∀ access ∈ accesses, access.Plain)
    (performed : (advance accesses).perform bus = (.ok rest, after)) :
    applyAll rest after.registers = applyAll accesses bus.registers ∧
      ∀ left ∈ rest, left.Plain := by
  cases accesses with
  | nil => cases performed; exact ⟨rfl, plain⟩
  | cons access others =>
      obtain ⟨remaining, started, rfl⟩ := advance_cons_ok performed
      obtain ⟨first, left⟩ := start_apply (plain access List.mem_cons_self) started
      refine ⟨?_, ?_⟩
      · rw [applyAll, List.foldl_append]
        exact congrArg (others.foldl apply) first
      · intro later member
        rcases List.mem_append.mp member with new | old
        · exact left later (Option.mem_toList.mp new)
        · exact plain later (List.mem_cons_of_mem _ old)

theorem advance_last {accesses rest : List Access} {final : Access} {bus after : Bus}
    (whole : final.Whole) (last : accesses.getLast? = some final)
    (performed : (advance accesses).perform bus = (.ok rest, after)) :
    rest = [] ∧ after.written = final.written?.toList ++ bus.written ∨
      rest.getLast? = some final := by
  cases accesses with
  | nil => cases last
  | cons access others =>
      obtain ⟨written, remaining, remains, rfl⟩ := advance_ok performed
      cases others with
      | nil =>
          cases last
          cases remaining with
          | none => exact .inl ⟨rfl, written⟩
          | some left => exact absurd remains (whole left)
      | cons next behind =>
          right
          rw [List.getLast?_append]
          rw [List.getLast?_cons_cons] at last
          rw [last]
          rfl

end Access

end UwbRadio
