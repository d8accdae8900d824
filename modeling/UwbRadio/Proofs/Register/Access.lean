import UwbRadio.Proofs.Bus.Bounds
import UwbRadio.Proofs.Bus.Status

/-!
Access to a register of the map by its value. A read and a write are one transaction each,
a modification is one of both, and no byte outside the register changes. So what is written
is what is read back, as far as the register is wide, and registers that lie side by side
under one index do not disturb each other. Buffers are not accessed by value at all.
-/

namespace UwbRadio

namespace RegisterFile

theorem byte_withBlock_other (file : RegisterFile) {index other : UInt8} (bytes : Bytes)
    (apart : other ≠ index) (place : Nat) :
    (file.withBlock index bytes).byte other place = file.byte other place := by
  rw [byte, byte, block_withBlock_other _ _ apart]

theorem byte_write_outside (file : RegisterFile) {index other : UInt8} {address place : Nat}
    {data : Bytes}
    (outside : ¬(other = index ∧ address ≤ place ∧ place < address + data.length)) :
    (file.write index address data).byte other place = file.byte other place := by
  by_cases same : other = index
  · subst same
    have beside : ¬(address ≤ place ∧ place < address + data.length) :=
      fun inside => outside ⟨rfl, inside⟩
    unfold write
    split
    · rw [byte_store, List.length_zipWith, read_length, Nat.min_self, if_neg beside]
    · rw [byte_store, if_neg beside]
  · unfold write
    split <;> exact byte_withBlock_other _ _ same place

theorem byte_write_inside (file : RegisterFile) {index : UInt8} {address place : Nat}
    {data : Bytes} (plain : index ≠ Register.systemStatus.index)
    (inside : address ≤ place ∧ place < address + data.length) :
    (file.write index address data).byte index place = data.getD (place - address) 0 := by
  rw [write, if_neg plain, byte_store, if_pos inside]

theorem read_eq_of_bytes {file : RegisterFile} {index : UInt8} {address : Nat} {data : Bytes}
    (same : ∀ place < data.length, file.byte index (address + place) = data.getD place 0) :
    file.read index address data.length = data := by
  apply List.ext_getElem (file.read_length index address data.length)
  intro place left right
  have found := same place right
  rw [← file.read_getD index address right, List.getD_eq_getElem _ _ left,
    List.getD_eq_getElem _ _ right] at found
  exact found

theorem read_congr {file other : RegisterFile} {index : UInt8} {address length : Nat}
    (same : ∀ place < length, file.byte index (address + place) = other.byte index (address + place)) :
    file.read index address length = other.read index address length := by
  have measured := other.read_length index address length
  have bytes : file.read index address (other.read index address length).length =
      other.read index address length := by
    apply read_eq_of_bytes
    intro place inside
    rw [measured] at inside
    rw [same place inside, other.read_getD index address inside]
  rwa [measured] at bytes

theorem read_write_same (file : RegisterFile) {index : UInt8} (address : Nat) (data : Bytes)
    (plain : index ≠ Register.systemStatus.index) :
    (file.write index address data).read index address data.length = data := by
  apply read_eq_of_bytes
  intro place inside
  rw [byte_write_inside file plain ⟨Nat.le_add_right _ _, Nat.add_lt_add_left inside _⟩,
    Nat.add_sub_cancel_left]

theorem value_write_same (file : RegisterFile) {register : Register}
    (plain : register.index ≠ Register.systemStatus.index) (value : UInt64) :
    (file.write register.index register.subAddress.toNat
        (Bytes.littleEndian register.width value.toNat)).value register =
      UInt64.ofNat (value.toNat % 2 ^ (8 * register.width)) := by
  have bytes : 2 ^ (8 * register.width) = 256 ^ register.width := Nat.pow_mul 2 8 register.width
  have stored := file.read_write_same register.subAddress.toNat
    (Bytes.littleEndian register.width value.toNat) plain
  rw [Bytes.littleEndian_length] at stored
  rw [RegisterFile.value, stored, Bytes.fromLittleEndian_littleEndian, bytes]

end RegisterFile

namespace Bus

def passes (bus : Bus) : Bool :=
  bus.enabled && !bus.attempt.1

variable {bus : Bus} {header : Bytes} {command : Command} {rest : Bytes}

theorem read_of_passes (passes : bus.passes = true)
    (decoded : Command.decode? header = some (command, rest)) (length : Nat) :
    let data := bus.registers.read command.index command.subAddress.toNat length
    Bus.read header length bus = (.ok data, bus.attempt.2.record (.read header data)) := by
  obtain ⟨enabled, kept⟩ := Bool.and_eq_true_iff.mp passes
  have passed : bus.attempt.1 = false := by simpa using kept
  unfold Bus.read
  rw [if_pos enabled, decoded]
  dsimp only
  rw [passed]
  rfl

theorem write_of_passes (passes : bus.passes = true)
    (decoded : Command.decode? header = some (command, rest)) (data : Bytes) :
    let registers := bus.registers.write command.index command.subAddress.toNat data
    Bus.write header data bus =
      (.ok (), { bus.attempt.2 with registers }.record (.write header data)) := by
  obtain ⟨enabled, kept⟩ := Bool.and_eq_true_iff.mp passes
  have passed : bus.attempt.1 = false := by simpa using kept
  unfold Bus.write
  rw [if_pos enabled, decoded]
  dsimp only
  rw [passed]
  rfl

theorem read_of_refuses (refuses : bus.passes = false) (header : Bytes) (length : Nat) :
    ∃ fault after, Bus.read header length bus = (.error fault, after) := by
  unfold Bus.read
  split
  · rename_i enabled
    have failed : bus.attempt.1 = true := by simpa [passes, enabled] using refuses
    dsimp only
    rw [failed]
    exact ⟨_, _, rfl⟩
  · exact ⟨_, _, rfl⟩

theorem write_of_refuses (refuses : bus.passes = false) (header data : Bytes) :
    ∃ fault after, Bus.write header data bus = (.error fault, after) ∧
      after.registers = bus.registers := by
  unfold Bus.write
  split
  · rename_i enabled
    have failed : bus.attempt.1 = true := by simpa [passes, enabled] using refuses
    dsimp only
    rw [failed]
    exact ⟨_, _, rfl, rfl⟩
  · exact ⟨_, _, rfl, rfl⟩

end Bus

/-! ### Accesses to a register -/

namespace Register

open RegisterOperation

def header (register : Register) (direction : Direction) : Bytes :=
  Command.header ⟨direction, register.index, register.subAddress⟩

variable {register : Register} {bus : Bus}

theorem decode?_header (listed : register ∈ all) (direction : Direction) :
    Command.decode? (register.header direction) =
      some (⟨direction, register.index, register.subAddress⟩, []) := by
  have every : ∀ register ∈ all, register.subAddress ≠ Command.lastShortSubAddress := by decide
  have whole := addressable_of_mem listed
  have inside := Nat.le_trans (Nat.le_add_right _ _) whole.inside
  have known : (⟨direction, register.index, register.subAddress⟩ : Command).index ≤
      maxRegisterIndex := whole.known
  rw [header, Command.decode?_whole known inside, Command.understood,
    if_neg (every register listed)]

theorem Addressable.encodeHeader_whole {fault : Type} (whole : register.Addressable)
    (direction : Direction) :
    (encodeHeader register.index register.subAddress register.width direction :
        Except (AccessError fault) Bytes) = .ok (register.header direction) :=
  encodeHeader_eq_ok_iff.mpr ⟨whole.known, whole.inside, rfl⟩

theorem read_wide (wide : maxWidth < register.width) (bus : Bus) :
    register.read.perform bus = (.error (.invalidWidth register.width), bus) := by
  rw [read, readValue, if_pos wide]
  rfl

theorem write_wide (wide : maxWidth < register.width) (value : UInt64) (bus : Bus) :
    (register.write value).perform bus = (.error (.invalidWidth register.width), bus) := by
  rw [write, writeValue, if_pos wide]
  rfl

theorem Addressable.read_eq (whole : register.Addressable) (small : register.width ≤ maxWidth)
    (bus : Bus) :
    register.read.perform bus =
      match Bus.read (register.header .read) register.width bus with
      | (.ok bytes, after) => (.ok (UInt64.ofNat (Bytes.fromLittleEndian bytes)), after)
      | (.error fault, after) => (.error (.bus fault), after) := by
  have performed : (readBytes register.index register.subAddress register.width).perform bus =
      ((Bus.read (register.header .read) register.width bus).1.mapError AccessError.bus,
        (Bus.read (register.header .read) register.width bus).2) := by
    rw [readBytes, Operation.perform_bind, whole.encodeHeader_whole]
    rfl
  rw [read, readValue, if_neg (Nat.not_lt.mpr small), Operation.perform_bind, performed]
  cases Bus.read (register.header .read) register.width bus with
  | mk result after => cases result <;> rfl

theorem Addressable.write_eq (whole : register.Addressable) (small : register.width ≤ maxWidth)
    (value : UInt64) (bus : Bus) :
    (register.write value).perform bus =
      match Bus.write (register.header .write)
        (Bytes.littleEndian register.width value.toNat) bus with
      | (.ok _, after) => (.ok (), after)
      | (.error fault, after) => (.error (.bus fault), after) := by
  rw [write, writeValue, if_neg (Nat.not_lt.mpr small), writeBytes, Bytes.littleEndian_length,
    Operation.perform_bind, whole.encodeHeader_whole]
  change (Operation.ofBus (Bus.write (register.header .write) _)).perform bus = _
  rw [Operation.perform_ofBus]
  cases Bus.write (register.header .write) (Bytes.littleEndian register.width value.toNat) bus with
  | mk result after => cases result <;> rfl

theorem read_of_passes (listed : register ∈ all) (small : register.width ≤ maxWidth)
    (passes : bus.passes = true) :
    let data := bus.registers.read register.index register.subAddress.toNat register.width
    register.read.perform bus =
      (.ok (bus.registers.value register),
        bus.attempt.2.record (.read (register.header .read) data)) := by
  rw [(addressable_of_mem listed).read_eq small,
    Bus.read_of_passes passes (decode?_header listed .read)]
  rfl

theorem write_of_passes (listed : register ∈ all) (small : register.width ≤ maxWidth)
    (passes : bus.passes = true) (value : UInt64) :
    let data := Bytes.littleEndian register.width value.toNat
    let registers := bus.registers.write register.index register.subAddress.toNat data
    (register.write value).perform bus =
      (.ok (), { bus.attempt.2 with registers }.record (.write (register.header .write) data)) := by
  rw [(addressable_of_mem listed).write_eq small,
    Bus.write_of_passes passes (decode?_header listed .write)]

theorem read_of_refuses (listed : register ∈ all) (small : register.width ≤ maxWidth)
    (refuses : bus.passes = false) :
    ∃ fault after, register.read.perform bus = (.error (.bus fault), after) := by
  obtain ⟨fault, after, failed⟩ :=
    Bus.read_of_refuses refuses (register.header .read) register.width
  rw [(addressable_of_mem listed).read_eq small, failed]
  exact ⟨fault, after, rfl⟩

theorem write_of_refuses (listed : register ∈ all) (small : register.width ≤ maxWidth)
    (refuses : bus.passes = false) (value : UInt64) :
    ∃ fault after, (register.write value).perform bus = (.error (.bus fault), after) ∧
      after.registers = bus.registers := by
  obtain ⟨fault, after, failed, same⟩ := Bus.write_of_refuses refuses (register.header .write)
    (Bytes.littleEndian register.width value.toNat)
  rw [(addressable_of_mem listed).write_eq small, failed]
  exact ⟨fault, after, rfl, same⟩

theorem write_mod (register : Register) (value : UInt64) :
    register.write (UInt64.ofNat (value.toNat % 2 ^ (8 * register.width))) =
      register.write value := by
  have bytes : 2 ^ (8 * register.width) = 256 ^ register.width := Nat.pow_mul 2 8 register.width
  have fits : value.toNat % 2 ^ (8 * register.width) < 2 ^ 64 :=
    Nat.lt_of_le_of_lt (Nat.mod_le _ _) value.toNat_lt
  unfold write writeValue
  rw [UInt64.toNat_ofNat', Nat.mod_eq_of_lt fits, bytes, Bytes.littleEndian_mod]

theorem modify_eq (register : Register) (change : UInt64 → UInt64) (bus : Bus) :
    (register.modify change).perform bus =
      match register.read.perform bus with
      | (.ok value, after) => (register.write (change value)).perform after
      | (.error fault, after) => (.error fault, after) := by
  rw [modify, Operation.perform_bind]
  cases register.read.perform bus with
  | mk result after => cases result <;> rfl

/-- The byte is one of the register's. -/
def Covers (register : Register) (index : UInt8) (place : Nat) : Prop :=
  index = register.index ∧ register.subAddress.toNat ≤ place ∧
    place < register.subAddress.toNat + register.width

/-- From one bus to the other only bytes of the register have changed. -/
def Confines (register : Register) (bus after : Bus) : Prop :=
  ∀ index place, ¬register.Covers index place →
    after.registers.byte index place = bus.registers.byte index place

theorem confines_of_eq {after : Bus} (same : after.registers = bus.registers) :
    register.Confines bus after := by
  intro index place _
  rw [same]

theorem Confines.trans {middle after : Bus} (first : register.Confines bus middle)
    (second : register.Confines middle after) : register.Confines bus after :=
  fun index place outside => (second index place outside).trans (first index place outside)

theorem read_confines (register : Register) : register.read.Keeps register.Confines :=
  register.read_keeps register.Confines (fun _ => confines_of_eq rfl) Confines.trans
    fun header length bus => confines_of_eq (bus.read_registers header length)

theorem write_confines (listed : register ∈ all) (value : UInt64) :
    (register.write value).Keeps register.Confines := by
  intro bus
  by_cases small : register.width ≤ maxWidth
  · cases passes : bus.passes with
    | true =>
        rw [write_of_passes listed small passes]
        intro index place outside
        apply RegisterFile.byte_write_outside
        rw [Bytes.littleEndian_length]
        exact outside
    | false =>
        obtain ⟨fault, after, failed, same⟩ := write_of_refuses listed small passes value
        rw [failed]
        exact confines_of_eq same
  · rw [write_wide (Nat.lt_of_not_le small)]
    exact confines_of_eq rfl

theorem modify_confines (listed : register ∈ all) (change : UInt64 → UInt64) :
    (register.modify change).Keeps register.Confines :=
  Operation.Keeps.bind Confines.trans register.read_confines
    fun value => write_confines listed (change value)

theorem all_apart : ∀ left ∈ all, ∀ right ∈ all,
    left.index ≠ right.index ∨
      left.subAddress.toNat + left.width ≤ right.subAddress.toNat ∨
      right.subAddress.toNat + right.width ≤ left.subAddress.toNat ∨ left = right := by
  decide

/-- No two registers of the map share a byte. -/
theorem Covers.unique {other : Register} {index : UInt8} {place : Nat}
    (covers : register.Covers index place) (otherCovers : other.Covers index place)
    (listed : register ∈ all) (otherListed : other ∈ all) : register = other := by
  obtain ⟨sameIndex, reached, within⟩ := covers
  obtain ⟨otherIndex, otherReached, otherWithin⟩ := otherCovers
  rcases all_apart register listed other otherListed with apart | before | behind | same
  · exact absurd (sameIndex.symm.trans otherIndex) apart
  · omega
  · omega
  · exact same

theorem Confines.read_other {other : Register} {after : Bus} (confines : register.Confines bus after)
    (listed : register ∈ all) (otherListed : other ∈ all) (different : other ≠ register) :
    after.registers.read other.index other.subAddress.toNat other.width =
      bus.registers.read other.index other.subAddress.toNat other.width := by
  apply RegisterFile.read_congr
  intro place inside
  apply confines
  intro covers
  have otherCovers : other.Covers other.index (other.subAddress.toNat + place) :=
    ⟨rfl, Nat.le_add_right _ _, Nat.add_lt_add_left inside _⟩
  exact different (otherCovers.unique covers otherListed listed)

theorem eq_systemStatus (listed : register ∈ all)
    (events : register.index = systemStatus.index) : register = systemStatus := by
  have only : ∀ register ∈ all, register.index ≠ systemStatus.index ∨
      register = systemStatus := by
    decide
  exact (only register listed).resolve_left (fun other => other events)

theorem value_of_write (listed : register ∈ all) (file : RegisterFile) (value : UInt64) :
    (file.write register.index register.subAddress.toNat
        (Bytes.littleEndian register.width value.toNat)).value register =
      if register.index = systemStatus.index then file.value register &&& ~~~value
      else UInt64.ofNat (value.toNat % 2 ^ (8 * register.width)) := by
  split
  · rename_i events
    rw [eq_systemStatus listed events]
    exact file.status_of_write value
  · rename_i plain
    exact file.value_write_same plain value

/-- An access by value touches its own register and nothing else. Where transactions go
through, a write is one of them and what it has written is read back, as far as the register
is wide; a modification is a read and then a write of what becomes of the value, and no
write where the read fails. A register of more than eight bytes is refused without a
transaction. -/
theorem accesses_keep_to_register (listed : register ∈ all) (bus : Bus) (value : UInt64)
    (change : UInt64 → UInt64) :
    let old := bus.registers.value register
    let read := register.read.perform bus
    let written := (register.write value).perform bus
    let modified := (register.modify change).perform bus
    (∀ direction, Command.decode? (register.header direction) =
      some (⟨direction, register.index, register.subAddress⟩, [])) ∧
    (8 < register.width →
      read = (.error (.invalidWidth register.width), bus) ∧
        written = (.error (.invalidWidth register.width), bus)) ∧
    (register.width ≤ 8 → bus.passes = true →
      written.1 = .ok () ∧
      written.2.trace = (bus.clock, .write (register.header .write)
        (Bytes.littleEndian register.width value.toNat)) :: bus.trace ∧
      (written.2.passes = true → (register.read.perform written.2).1 = .ok
        (if register.index = systemStatus.index then old &&& ~~~value
          else UInt64.ofNat (value.toNat % 2 ^ (8 * register.width)))) ∧
      read.1 = .ok old ∧
      read.2.trace = (bus.clock, .read (register.header .read)
        (bus.registers.read register.index register.subAddress.toNat register.width)) ::
          bus.trace ∧
      modified = (register.write
        (UInt64.ofNat ((change old).toNat % 2 ^ (8 * register.width)))).perform read.2) ∧
    (register.width ≤ 8 → bus.passes = false →
      (∃ fault, read.1 = .error (.bus fault) ∧ modified = (.error (.bus fault), read.2)) ∧
      read.2.written = bus.written ∧
      ∃ fault, written.1 = .error (.bus fault)) ∧
    ∀ after ∈ [read.2, written.2, modified.2],
      (∀ index place, ¬register.Covers index place →
        after.registers.byte index place = bus.registers.byte index place) ∧
      ∀ other ∈ all, other ≠ register →
        after.registers.read other.index other.subAddress.toNat other.width =
          bus.registers.read other.index other.subAddress.toNat other.width := by
  intro old read written modified
  refine ⟨decode?_header listed, ?_, ?_, ?_, ?_⟩
  · intro wide
    exact ⟨read_wide wide bus, write_wide wide value bus⟩
  · intro small passes
    have wrote := write_of_passes listed small passes value
    have gave := read_of_passes listed small passes
    refine ⟨congrArg Prod.fst wrote, ?_, ?_, congrArg Prod.fst gave, ?_, ?_⟩
    · exact congrArg (fun outcome => outcome.2.trace) wrote
    · intro again
      have reread := congrArg Prod.fst (read_of_passes listed small again)
      have registers : written.2.registers = bus.registers.write register.index
          register.subAddress.toNat (Bytes.littleEndian register.width value.toNat) :=
        congrArg (fun outcome => outcome.2.registers) wrote
      rw [registers, value_of_write listed] at reread
      exact reread
    · exact congrArg (fun outcome => outcome.2.trace) gave
    · rw [write_mod]
      change (register.modify change).perform bus = _
      rw [modify_eq, gave]
      exact congrArg (fun outcome => ((register.write (change old)).perform outcome.2)) gave.symm
  · intro small refuses
    obtain ⟨fault, after, failed⟩ := read_of_refuses listed small refuses
    obtain ⟨other, _, refused, _⟩ := write_of_refuses listed small refuses value
    refine ⟨⟨fault, congrArg Prod.fst failed, ?_⟩, register.read_written bus, other,
      congrArg Prod.fst refused⟩
    change (register.modify change).perform bus = (.error (.bus fault), (register.read.perform bus).2)
    rw [modify_eq, failed]
  · intro after member
    have confines : register.Confines bus after := by
      simp only [List.mem_cons, List.not_mem_nil, or_false] at member
      rcases member with rfl | rfl | rfl
      · exact register.read_confines bus
      · exact write_confines listed value bus
      · exact modify_confines listed change bus
    exact ⟨confines, fun other otherListed different =>
      confines.read_other listed otherListed different⟩

def alwaysOnBus : Bus :=
  { enabled := true
    registers := RegisterFile.powerUp.store alwaysOnControl.index 0 [1, 2, 3, 4, 5, 6, 7, 8] }

/-- A value that is too wide for the byte between two other registers. -/
theorem alwaysOnControl_spares_neighbours :
    alwaysOnControl ∈ all ∧ alwaysOnControl.width ≤ 8 ∧ alwaysOnBus.passes = true ∧
      let written := (alwaysOnControl.write 0x1fe).perform alwaysOnBus
      let modified := (alwaysOnControl.modify fun old => old + 0x1fe).perform alwaysOnBus
      written.1 = .ok () ∧
      (alwaysOnControl.read.perform written.2).1 = .ok 0xfe ∧
      modified =
        (alwaysOnControl.write 1).perform (alwaysOnControl.read.perform alwaysOnBus).2 ∧
      modified.2.registers.read wakeConfig.index 0 2 = [1, 2] ∧
      modified.2.registers.read alwaysOnConfig.index 6 1 = [7] ∧
      modified.2.registers.byte alwaysOnControl.index 3 = 4 := by
  have listed : alwaysOnControl ∈ all := by decide
  have passes : alwaysOnBus.passes = true := rfl
  obtain ⟨_, _, through, _, kept⟩ :=
    accesses_keep_to_register listed alwaysOnBus 0x1fe fun old => old + 0x1fe
  obtain ⟨wrote, _, reread, _, _, modified⟩ := through (by decide) passes
  obtain ⟨outside, others⟩ := kept _ (List.mem_cons_of_mem _ (List.mem_cons_of_mem _
    List.mem_cons_self))
  refine ⟨listed, by decide, passes, wrote, ?_, modified, ?_, ?_, ?_⟩
  · exact reread rfl
  · exact others wakeConfig (by decide) (by decide)
  · exact others alwaysOnConfig (by decide) (by decide)
  · refine (outside alwaysOnControl.index 3 ?_).trans (by decide)
    rintro ⟨_, _, within⟩
    exact absurd within (by decide)

end Register

end UwbRadio
