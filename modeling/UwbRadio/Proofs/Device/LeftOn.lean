import UwbRadio.Proofs.Device.BringUp

/-!
What a failed start leaves of the bus. A bring-up turns the bus on before it reads from the
device and turns it off again only for a device of the wrong kind, so that every other
failure after the reset leaves it on.
-/

namespace UwbRadio

namespace Bus

variable {bus after : Bus} {fault : BusFault}

theorem read_cases (header : Bytes) (length : Nat) (bus : Bus) :
    bus.enabled = false ∧ Bus.read header length bus = (.error .disabled, bus) ∨
      bus.enabled = true ∧ (Bus.read header length bus).2.enabled = true ∧
        ((Bus.read header length bus).1 = .error .transfer ∨
          ∃ data, (Bus.read header length bus).1 = .ok data) := by
  unfold Bus.read
  split
  · rename_i on
    refine .inr ⟨on, ?_⟩
    dsimp only
    split
    · exact ⟨on, .inl rfl⟩
    · exact ⟨on, .inr ⟨_, rfl⟩⟩
  · rename_i off
    exact .inl ⟨Bool.eq_false_of_not_eq_true off, rfl⟩

theorem write_cases (header data : Bytes) (bus : Bus) :
    bus.enabled = false ∧ Bus.write header data bus = (.error .disabled, bus) ∨
      bus.enabled = true ∧ (Bus.write header data bus).2.enabled = true ∧
        ((Bus.write header data bus).1 = .error .transfer ∨
          (Bus.write header data bus).1 = .ok ()) := by
  unfold Bus.write
  split
  · rename_i on
    refine .inr ⟨on, ?_⟩
    dsimp only
    split
    · exact ⟨on, .inl rfl⟩
    · exact ⟨on, .inr rfl⟩
  · rename_i off
    exact .inl ⟨Bool.eq_false_of_not_eq_true off, rfl⟩

theorem read_eq_disabled_iff {header : Bytes} {length : Nat} :
    Bus.read header length bus = (.error .disabled, bus) ↔ bus.enabled = false := by
  obtain ⟨off, refused⟩ | ⟨on, _, tried⟩ := read_cases header length bus
  · exact iff_of_true refused off
  · refine iff_of_false (fun refused => ?_) (ne_false_of_eq_true on)
    rw [refused] at tried
    obtain ⟨⟨⟩⟩ | ⟨_, ⟨⟩⟩ := tried

theorem write_eq_disabled_iff {header data : Bytes} :
    Bus.write header data bus = (.error .disabled, bus) ↔ bus.enabled = false := by
  obtain ⟨off, refused⟩ | ⟨on, _, tried⟩ := write_cases header data bus
  · exact iff_of_true refused off
  · refine iff_of_false (fun refused => ?_) (ne_false_of_eq_true on)
    rw [refused] at tried
    obtain ⟨⟨⟩⟩ | ⟨⟨⟩⟩ := tried

theorem setResetLine_cases (high : Bool) (bus : Bus) :
    (setResetLine high bus).2.enabled = bus.enabled ∧
      ((setResetLine high bus).1 = .error .resetLine ∨ (setResetLine high bus).1 = .ok ()) := by
  unfold setResetLine
  dsimp only
  split
  · exact ⟨rfl, .inl rfl⟩
  · exact ⟨rfl, .inr rfl⟩

theorem reset_cases (bus : Bus) :
    (carry .reset bus).2.enabled = bus.enabled ∧
      ((carry .reset bus).1 = .error .resetLine ∨ (carry .reset bus).1 = .ok []) := by
  obtain ⟨lowered, lower⟩ := setResetLine_cases false bus
  dsimp only [carry]
  rw [Operation.reset_perform]
  cases made : setResetLine false bus with
  | mk result low =>
      rw [made] at lowered lower
      obtain rfl | rfl := lower
      · exact ⟨lowered, .inl rfl⟩
      · obtain ⟨raised, raise⟩ := setResetLine_cases true (low.record (.microseconds 1))
        dsimp only
        cases made : setResetLine true (low.record (.microseconds 1)) with
        | mk result high =>
            rw [made] at raised raise
            obtain rfl | rfl := raise
            · exact ⟨raised.trans lowered, .inl rfl⟩
            · exact ⟨raised.trans lowered, .inr rfl⟩

theorem carry_enabled (call : BusCall) (bus : Bus) :
    (carry call bus).2.enabled = match call with
      | .configure _ => true
      | _ => bus.enabled := by
  cases call with
  | configure hertz => rfl
  | read header length =>
      obtain ⟨_, refused⟩ | ⟨on, kept, _⟩ := read_cases header length bus
      · exact congrArg (fun outcome => outcome.2.enabled) refused
      · exact kept.trans on.symm
  | write header data =>
      obtain ⟨_, refused⟩ | ⟨on, kept, _⟩ := write_cases header data bus
      · dsimp only [carry]
        rw [refused]
      · exact kept.trans on.symm
  | reset => exact (reset_cases bus).1

theorem carry_fault {call : BusCall} (fails : carry call bus = (.error fault, after)) :
    fault = .resetLine ↔ call = .reset := by
  cases call with
  | configure hertz => cases fails
  | read header length =>
      refine iff_of_false ?_ nofun
      rintro rfl
      have read : Bus.read header length bus = (.error .resetLine, after) := fails
      obtain ⟨_, refused⟩ | ⟨_, _, tried⟩ := read_cases header length bus
      · cases read.symm.trans refused
      · rw [read] at tried
        obtain ⟨⟨⟩⟩ | ⟨_, ⟨⟩⟩ := tried
  | write header data =>
      refine iff_of_false ?_ nofun
      rintro rfl
      dsimp only [carry] at fails
      obtain ⟨_, refused⟩ | ⟨_, _, failed | done⟩ := write_cases header data bus
      · rw [refused] at fails
        cases fails
      · rw [failed] at fails
        cases fails
      · rw [done] at fails
        cases fails
  | reset =>
      refine iff_of_true ?_ rfl
      obtain ⟨_, failed | done⟩ := reset_cases bus
      · rw [fails] at failed
        exact Except.error.inj failed
      · rw [fails] at done
        cases done

end Bus

namespace Port

variable {call : BusCall} {calls made : List BusCall} {requests : List (BusRequest BusFault)}
  {before after : Bus} {answers : List Bytes} {error : AccessError BusFault}

theorem stays_on {result : Except BusFault Bytes}
    (carried : Bus.carry call before = (result, after)) (on : before.enabled = true) :
    after.enabled = true := by
  have kept := Bus.carry_enabled call before
  rw [carried] at kept
  cases call with
  | configure hertz => exact kept
  | reset => exact kept.trans on
  | read header length => exact kept.trans on
  | write header data => exact kept.trans on

theorem Succeeds.stays_on (succeeds : Bus.port.Succeeds calls before answers after)
    (on : before.enabled = true) : after.enabled = true := by
  induction succeeds with
  | nil => exact on
  | cons done _ ih => exact ih (Port.stays_on done on)

theorem Stops.stays_on (stops : Bus.port.Stops requests before made error after)
    (on : before.enabled = true) : after.enabled = true := by
  induction stops with
  | refused => exact on
  | failed fails => exact Port.stays_on fails on
  | later done _ ih => exact ih (Port.stays_on done on)

theorem Stops.ne_resetLine (stops : Bus.port.Stops requests before made error after)
    (others : ∀ request ∈ requests, request ≠ .ok .reset ∧ request ≠ .error (.bus .resetLine)) :
    error ≠ .bus .resetLine := by
  induction stops with
  | refused =>
      rintro rfl
      exact (others _ List.mem_cons_self).2 rfl
  | @failed call _ before after _ fails =>
      rintro ⟨⟩
      have carried : Bus.carry call before = (.error .resetLine, after) := fails
      exact (others _ List.mem_cons_self).1 (congrArg _ ((Bus.carry_fault carried).mp rfl))
  | later _ _ ih => exact ih fun request later => others request (List.mem_cons_of_mem _ later)

end Port

namespace BringUp

open Port

variable {config : DeviceConfig} {before after : Bus} {made : List BusCall} {answers : List Bytes}
  {error : AccessError BusFault}

theorem identified_on
    (identified : Bus.port.Succeeds (identification config) before answers after) :
    after.enabled = true := by
  cases identified with
  | cons _ rest =>
      cases rest with
      | cons configured rest =>
          cases configured
          exact rest.stays_on rfl

theorem unidentified_off_iff (off : before.enabled = false)
    (stops : Bus.port.Stops ((identification config).map .ok) before made error after) :
    after.enabled = false ↔ error = .bus .resetLine := by
  -- The second call turns the bus on, so only the first one can leave it off.
  cases stops with
  | @failed _ _ _ _ fault fails =>
      have carried : Bus.carry .reset before = (.error fault, after) := fails
      have kept := Bus.carry_enabled .reset before
      rw [carried] at kept
      exact iff_of_true (kept.trans off) (congrArg _ ((Bus.carry_fault carried).mpr rfl))
  | later _ stops =>
      cases stops with
      | failed fails => cases fails
      | later configured stops =>
          cases configured
          have on := stops.stays_on rfl
          refine iff_of_false (ne_false_of_eq_true on) (stops.ne_resetLine ?_)
          intro request asked
          obtain rfl := List.mem_singleton.mp asked
          exact ⟨nofun, nofun⟩

theorem completion_ne_reset (config : DeviceConfig) :
    ∀ request ∈ (completion config : List (BusRequest BusFault)),
      request ≠ .ok .reset ∧ request ≠ .error (.bus .resetLine) := by
  intro request asked
  unfold completion at asked
  rw [List.mem_cons, List.mem_append, List.mem_map, List.mem_pair] at asked
  obtain rfl | ⟨entry, _, rfl⟩ | rfl | rfl := asked
  · exact ⟨nofun, nofun⟩
  · unfold setupRequest
    split
    · exact ⟨nofun, nofun⟩
    · split <;> exact ⟨nofun, nofun⟩
  · exact ⟨nofun, nofun⟩
  · exact ⟨nofun, nofun⟩

theorem Ends.off_iff {error : Error BusFault} (off : before.enabled = false)
    (ends : Ends Bus.port config before made (.error error) after) :
    after.enabled = false ↔
      error = .bus (.bus .resetLine) ∨ ∃ deviceId, error = .initializationFault deviceId := by
  cases ends with
  | unidentified stops =>
      rw [unidentified_off_iff off stops]
      refine ⟨fun same => .inl (congrArg _ same), ?_⟩
      rintro (same | ⟨_, ⟨⟩⟩)
      exact Error.bus.inj same
  | foreign identified wrong => exact iff_of_true rfl (.inr ⟨_, rfl⟩)
  | incomplete identified right stops =>
      have on := stops.stays_on (identified_on identified)
      refine iff_of_false (ne_false_of_eq_true on) ?_
      rintro (same | ⟨_, ⟨⟩⟩)
      exact stops.ne_resetLine (completion_ne_reset config) (Error.bus.inj same)

end BringUp

/-- A start of a device whose bus was off fails with the bus off again exactly if it was the
reset that failed or the device is of the wrong kind. After any other failure the bus stays
on, and reads and writes are not refused. -/
theorem failed_start_leaves_bus_off_iff {device back : Device .uninitialized}
    {config : DeviceConfig} {error : Error BusFault} (off : device.bus.enabled = false)
    (failed : device.start config = .error (error, back)) :
    let early := error = .bus (.bus .resetLine) ∨ ∃ deviceId, error = .initializationFault deviceId
    (back.bus.enabled = false ↔ early) ∧
      (∀ header length, Bus.read header length back.bus = (.error .disabled, back.bus) ↔ early) ∧
      ∀ header data, Bus.write header data back.bus = (.error .disabled, back.bus) ↔ early := by
  intro early
  obtain ⟨_, brought⟩ := Device.start_eq_error_iff.mp failed
  rw [DeviceOperation.bringUp_perform, BringUp.bringUp_eq_iff] at brought
  obtain ⟨made, ends⟩ := brought
  have left := ends.off_iff off
  exact ⟨left, fun _ _ => Bus.read_eq_disabled_iff.trans left,
    fun _ _ => Bus.write_eq_disabled_iff.trans left⟩

theorem foreign_start_leaves_bus_off :
    foreignDevice.bus.enabled = false ∧ ∃ back,
      foreignDevice.start {} = .error (.initializationFault 0xffffffff, back) ∧
        back.bus.enabled = false := by
  have failed : ∃ deviceId back, deviceId = 0xffffffff ∧
      foreignDevice.start {} = .error (.initializationFault deviceId, back) :=
    ⟨_, _, by decide, rfl⟩
  obtain ⟨_, back, rfl, failed⟩ := failed
  exact ⟨rfl, back, failed,
    (failed_start_leaves_bus_off_iff rfl failed).1.mpr (.inr ⟨_, rfl⟩)⟩

def unreadableDevice : Device .uninitialized :=
  .ofBus { transferFaults := ⟨0, 1⟩ }

/-- The device cannot be identified, and its bus stays on. -/
theorem unidentified_start_leaves_bus_on :
    unreadableDevice.bus.enabled = false ∧ ∃ back,
      unreadableDevice.start {} = .error (.bus (.bus .transfer), back) ∧
        back.bus.enabled = true :=
  ⟨rfl, _, rfl, rfl⟩

end UwbRadio
