import UwbRadio.Proofs.Bus.Reads
import UwbRadio.Register.Bits

/-!
A bus on which every access goes through: it is on, no transfer fails and none has to
wait. What is read then is what the registers hold, and what is written changes its own
register only. No write over the bus sets a bit of the event status.
-/

namespace UwbRadio

namespace RegisterFile

def Unwarned (file : RegisterFile) : Prop :=
  file.value Register.systemStatus &&& Bits.halfPeriodWarning = 0

instance (file : RegisterFile) : Decidable file.Unwarned :=
  inferInstanceAs (Decidable (_ = _))

theorem unwarned_iff (file : RegisterFile) :
    file.Unwarned ↔ (file.byte Register.systemStatus.index 3).toNat.testBit 3 = false := by
  have bit : Bits.halfPeriodWarning.toNat = 2 ^ 27 := by decide
  have warning : (file.value Register.systemStatus).toNat.testBit 27 =
      (file.byte Register.systemStatus.index 3).toNat.testBit 3 := file.testBit_status 27
  rw [← warning, Unwarned, ← UInt64.toNat_inj, UInt64.toNat_and, bit, Nat.and_two_pow]
  cases (file.value Register.systemStatus).toNat.testBit 27 <;> simp

theorem Unwarned.write {file : RegisterFile} (unwarned : file.Unwarned) (index : UInt8)
    (data : Bytes) : (file.write index 0 data).Unwarned := by
  by_cases same : index = Register.systemStatus.index
  · subst same
    rw [unwarned_iff] at unwarned ⊢
    rw [byte_write_status, UInt8.toNat_and, Nat.testBit_and, unwarned, Bool.false_and]
  · rw [Unwarned, value, read_write_other _ _ _ (fun equal => same equal.symm)]
    exact unwarned

end RegisterFile

namespace Bus

structure Healthy (bus : Bus) : Prop where
  enabled : bus.enabled = true
  faultless : bus.transferFaults.failing = 0
  unstalled : bus.stall = none

instance (bus : Bus) : Decidable bus.Healthy :=
  decidable_of_iff (bus.enabled = true ∧ bus.transferFaults.failing = 0 ∧ bus.stall = none)
    ⟨fun ⟨enabled, faultless, unstalled⟩ => ⟨enabled, faultless, unstalled⟩,
      fun healthy => ⟨healthy.enabled, healthy.faultless, healthy.unstalled⟩⟩

variable {bus : Bus}

theorem Healthy.not_stalled (healthy : bus.Healthy) : bus.stalled = false := by
  rw [stalled, healthy.unstalled]
  exact Bool.and_false _

theorem Healthy.attempt (healthy : bus.Healthy) :
    bus.attempt.1 = false ∧ bus.attempt.2.Healthy := by
  have faultless := healthy.faultless
  have stall : bus.stall.map Nat.pred = none := by rw [healthy.unstalled]; rfl
  unfold Bus.attempt
  cases planned : bus.transferFaults with
  | mk passing failing =>
      rw [planned] at faultless
      subst faultless
      cases passing <;> exact ⟨rfl, healthy.enabled, rfl, stall⟩

theorem Healthy.read (healthy : bus.Healthy) {command : Command}
    (known : command.index ≤ maxRegisterIndex) (start : command.subAddress = 0) (length : Nat) :
    ∃ after, Bus.read command.header length bus =
        (.ok (bus.registers.read command.index 0 length), after) ∧
      after.Healthy ∧ after.registers = bus.registers := by
  obtain ⟨passes, still⟩ := healthy.attempt
  have inside : command.subAddress.toNat ≤ maxSubAddress := by rw [start]; exact Nat.zero_le _
  have understood : command.understood.subAddress.toNat = 0 := by
    rw [Command.understood, start]
    rfl
  unfold Bus.read
  rw [if_pos healthy.enabled, Command.decode?_whole known inside]
  dsimp only
  rw [passes, understood]
  exact ⟨_, rfl, ⟨still.enabled, still.faultless, still.unstalled⟩, rfl⟩

theorem Healthy.write (healthy : bus.Healthy) {command : Command}
    (known : command.index ≤ maxRegisterIndex) (start : command.subAddress = 0) (data : Bytes) :
    ∃ after, Bus.write command.header data bus = (.ok (), after) ∧
      after.Healthy ∧ after.registers = bus.registers.write command.index 0 data := by
  obtain ⟨passes, still⟩ := healthy.attempt
  have inside : command.subAddress.toNat ≤ maxSubAddress := by rw [start]; exact Nat.zero_le _
  have understood : command.understood.subAddress.toNat = 0 := by
    rw [Command.understood, start]
    rfl
  unfold Bus.write
  rw [if_pos healthy.enabled, Command.decode?_whole known inside]
  dsimp only
  rw [passes, understood]
  exact ⟨_, rfl, ⟨still.enabled, still.faultless, still.unstalled⟩, rfl⟩

end Bus

namespace RegisterOperation

variable {bus : Bus} {index : UInt8}

theorem readBytes_healthy (healthy : bus.Healthy) (known : index ≤ maxRegisterIndex)
    {length : Nat} (fits : length ≤ maxSubAddress) :
    ∃ after, (readBytes index 0 length).perform bus =
        (.ok (bus.registers.read index 0 length), after) ∧
      after.Healthy ∧ after.registers = bus.registers := by
  have encoded : (encodeHeader index 0 length .read : Except (AccessError BusFault) Bytes) =
      .ok (Command.header ⟨.read, index, 0⟩) :=
    encodeHeader_eq_ok_iff.mpr ⟨known, by rw [UInt16.toNat_zero]; omega, rfl⟩
  have command : (⟨.read, index, 0⟩ : Command).index ≤ maxRegisterIndex := known
  obtain ⟨after, read, still, same⟩ := healthy.read command rfl length
  refine ⟨after, ?_, still, same⟩
  rw [readBytes, Operation.perform_bind, encoded]
  exact congrArg (fun result : Except BusFault Bytes × Bus =>
    (result.1.mapError AccessError.bus, result.2)) read

theorem writeBytes_healthy (healthy : bus.Healthy) (known : index ≤ maxRegisterIndex)
    {data : Bytes} (fits : data.length ≤ maxSubAddress) :
    ∃ after, (writeBytes index 0 data).perform bus = (.ok (), after) ∧
      after.Healthy ∧ after.registers = bus.registers.write index 0 data := by
  have encoded : (encodeHeader index 0 data.length .write : Except (AccessError BusFault) Bytes) =
      .ok (Command.header ⟨.write, index, 0⟩) :=
    encodeHeader_eq_ok_iff.mpr ⟨known, by rw [UInt16.toNat_zero]; omega, rfl⟩
  have command : (⟨.write, index, 0⟩ : Command).index ≤ maxRegisterIndex := known
  obtain ⟨after, written, still, same⟩ := healthy.write command rfl data
  refine ⟨after, ?_, still, same⟩
  rw [writeBytes, Operation.perform_bind, encoded]
  exact congrArg (fun result : Except BusFault Unit × Bus =>
    (result.1.mapError AccessError.bus, result.2)) written

end RegisterOperation

namespace Register

open RegisterOperation

structure Plain (register : Register) : Prop where
  known : register.index ≤ maxRegisterIndex
  start : register.subAddress = 0
  inside : register.width ≤ maxSubAddress

variable {bus : Bus} {register : Register}

theorem read_healthy (healthy : bus.Healthy) (plain : register.Plain)
    (value : register.width ≤ maxWidth) :
    ∃ after, register.read.perform bus = (.ok (bus.registers.value register), after) ∧
      after.Healthy ∧ after.registers = bus.registers := by
  obtain ⟨after, performed, still, same⟩ := readBytes_healthy healthy plain.known plain.inside
  refine ⟨after, ?_, still, same⟩
  rw [read, readValue, if_neg (Nat.not_lt.mpr value), Operation.perform_bind, plain.start,
    performed, RegisterFile.value, plain.start]
  rfl

theorem write_healthy (healthy : bus.Healthy) (plain : register.Plain)
    (small : register.width ≤ maxWidth) (value : UInt64) :
    ∃ after, (register.write value).perform bus = (.ok (), after) ∧ after.Healthy ∧
      after.registers = bus.registers.write register.index 0
        (Bytes.littleEndian register.width value.toNat) := by
  have inside := plain.inside
  rw [← Bytes.littleEndian_length register.width value.toNat] at inside
  obtain ⟨after, performed, still, same⟩ := writeBytes_healthy healthy plain.known inside
  refine ⟨after, ?_, still, same⟩
  rw [write, writeValue, if_neg (Nat.not_lt.mpr small), plain.start]
  exact performed

theorem part_start (plain : register.Plain) {length : Nat} (fits : length ≤ register.width) :
    (register.part 0 length : Except (AccessError BusFault) UInt16) = .ok 0 := by
  have placed : ¬ (register.subAddress.toNat + (0 : UInt16).toNat ≥ UInt16.size) := by
    rw [plain.start]
    decide
  rw [part, if_neg placed, if_neg (by rw [UInt16.toNat_zero]; omega), plain.start]
  rfl

theorem readPart_healthy (healthy : bus.Healthy) (plain : register.Plain) {length : Nat}
    (fits : length ≤ register.width) :
    ∃ after, (register.readPart 0 length).perform bus =
        (.ok (bus.registers.read register.index 0 length), after) ∧
      after.Healthy ∧ after.registers = bus.registers := by
  have inside := Nat.le_trans fits plain.inside
  obtain ⟨after, performed, still, same⟩ := readBytes_healthy healthy plain.known inside
  refine ⟨after, ?_, still, same⟩
  rw [readPart, Operation.perform_bind, part_start plain fits]
  exact performed

theorem writePart_healthy (healthy : bus.Healthy) (plain : register.Plain) {data : Bytes}
    (fits : data.length ≤ register.width) :
    ∃ after, (register.writePart 0 data).perform bus = (.ok (), after) ∧ after.Healthy ∧
      after.registers = bus.registers.write register.index 0 data := by
  have inside := Nat.le_trans fits plain.inside
  obtain ⟨after, performed, still, same⟩ := writeBytes_healthy healthy plain.known inside
  refine ⟨after, ?_, still, same⟩
  rw [writePart, Operation.perform_bind, part_start plain fits]
  exact performed

end Register

/-- A healthy bus, and the half period warning is clear. -/
structure Bus.Ready (bus : Bus) : Prop extends bus.Healthy where
  unwarned : bus.registers.Unwarned

instance (bus : Bus) : Decidable bus.Ready :=
  decidable_of_iff (bus.Healthy ∧ bus.registers.Unwarned)
    ⟨fun ⟨healthy, unwarned⟩ => ⟨healthy, unwarned⟩,
      fun ready => ⟨ready.toHealthy, ready.unwarned⟩⟩

namespace Access

def Plain : Access → Prop
  | .write register _ | .modify register _ _ =>
      register.Plain ∧ register.width ≤ RegisterOperation.maxWidth
  | .load register data => register.Plain ∧ data.length ≤ register.width

def transfers : Access → Nat
  | .write _ _ | .load _ _ => 1
  | .modify _ _ _ => 2

theorem start_ready {access : Access} {bus : Bus} (ready : bus.Ready) (plain : access.Plain) :
    ∃ remaining after, access.start.perform bus = (.ok remaining, after) ∧ after.Ready ∧
      (∀ other ∈ remaining, other.Plain) ∧
      (remaining.toList.map transfers).sum + 1 = access.transfers := by
  cases access with
  | write register value =>
      obtain ⟨after, performed, still, registers⟩ :=
        Register.write_healthy ready.toHealthy plain.1 plain.2 value
      refine ⟨none, after, ?_, ⟨still, ?_⟩, nofun, rfl⟩
      · rw [start, Operation.perform_bind, performed]
        rfl
      · rw [registers]
        exact ready.unwarned.write _ _
  | load register data =>
      obtain ⟨after, performed, still, registers⟩ :=
        Register.writePart_healthy ready.toHealthy plain.1 plain.2
      refine ⟨none, after, ?_, ⟨still, ?_⟩, nofun, rfl⟩
      · rw [start, Operation.perform_bind, performed]
        rfl
      · rw [registers]
        exact ready.unwarned.write _ _
  | modify register keep set =>
      obtain ⟨after, performed, still, registers⟩ :=
        Register.read_healthy ready.toHealthy plain.1 plain.2
      have unwarned : after.registers.Unwarned := registers ▸ ready.unwarned
      refine ⟨some (.write register (bus.registers.value register &&& keep ||| set)), after, ?_,
        ⟨still, unwarned⟩, ?_, rfl⟩
      · rw [start, Operation.perform_bind, performed]
        rfl
      · rintro other ⟨⟩
        exact plain

inductive Completes : List Access → Bus → Nat → Bus → Prop
  | last {accesses bus after} (flows : bus.stalled = false)
      (performed : (advance accesses).perform bus = (.ok [], after)) :
      Completes accesses bus 1 after
  | more {accesses rest bus middle count after} (flows : bus.stalled = false)
      (performed : (advance accesses).perform bus = (.ok rest, middle)) (more : rest ≠ [])
      (completes : Completes rest middle count after) : Completes accesses bus (count + 1) after

theorem completes_of_ready {accesses : List Access} {bus : Bus} (ready : bus.Ready)
    (plain : ∀ access ∈ accesses, access.Plain) (some : accesses ≠ []) :
    ∃ after, Completes accesses bus (accesses.map transfers).sum after ∧ after.Ready := by
  generalize counted : (accesses.map transfers).sum = count
  induction count generalizing accesses bus with
  | zero =>
      cases accesses with
      | nil => exact absurd rfl some
      | cons access rest => cases access <;> simp [transfers] at counted
  | succ count ih =>
      cases accesses with
      | nil => exact absurd rfl some
      | cons access rest =>
          obtain ⟨remaining, middle, started, still, left, fewer⟩ :=
            start_ready ready (plain access List.mem_cons_self)
          have performed : (advance (access :: rest)).perform bus =
              (.ok (remaining.toList ++ rest), middle) := by
            rw [advance, Operation.perform_bind, started]
            rfl
          have flows := ready.toHealthy.not_stalled
          have counted : ((remaining.toList ++ rest).map transfers).sum = count := by
            rw [List.map_cons, List.sum_cons] at counted
            rw [List.map_append, List.sum_append]
            omega
          cases behind : remaining.toList ++ rest with
          | nil =>
              rw [behind] at performed counted
              rw [← counted]
              exact ⟨middle, .last flows performed, still⟩
          | cons next others =>
              rw [behind] at performed counted
              have plain : ∀ other ∈ next :: others, other.Plain := by
                rw [← behind]
                intro other member
                rcases List.mem_append.mp member with new | old
                · exact left other (Option.mem_toList.mp new)
                · exact plain other (List.mem_cons_of_mem _ old)
              obtain ⟨after, completes, later⟩ :=
                ih still plain (List.cons_ne_nil _ _) counted
              exact ⟨after, .more flows performed (List.cons_ne_nil _ _) completes, later⟩

end Access

end UwbRadio
