import Mathlib.Data.List.Basic
import UwbRadio.Proofs.Bus.Bounds
import UwbRadio.Proofs.Device.Port

/-!
How a bring-up goes. Its calls follow a plan that the configuration lays down: reset the
device, identify it, and if it is the right one write the setup and the address and go to
the operating speed. The first call that fails ends it, and so does the first entry of the
setup that no header can address.
-/

namespace UwbRadio

namespace Port

variable {bus fault α : Type} (port : Port bus fault)

inductive Succeeds : List BusCall → bus → List Bytes → bus → Prop
  | nil {before : bus} : Succeeds [] before [] before
  | cons {call : BusCall} {calls : List BusCall} {before middle after : bus} {answer : Bytes}
      {answers : List Bytes} (done : port.carry call before = (.ok answer, middle))
      (rest : Succeeds calls middle answers after) :
      Succeeds (call :: calls) before (answer :: answers) after

/-- The requests are followed up to the first that is none or that fails. -/
inductive Stops : List (BusRequest fault) → bus → List BusCall → AccessError fault → bus → Prop
  | refused {refusal : AccessError fault} {requests : List (BusRequest fault)} {before : bus} :
      Stops (.error refusal :: requests) before [] refusal before
  | failed {call : BusCall} {requests : List (BusRequest fault)} {before after : bus}
      {fault : fault} (fails : port.carry call before = (.error fault, after)) :
      Stops (.ok call :: requests) before [call] (.bus fault) after
  | later {call : BusCall} {requests : List (BusRequest fault)} {before middle after : bus}
      {answer : Bytes} {made : List BusCall} {error : AccessError fault}
      (done : port.carry call before = (.ok answer, middle))
      (stops : Stops requests middle made error after) :
      Stops (.ok call :: requests) before (call :: made) error after

def askAll : (List Bytes → bus → Except (Error fault) α × bus) → List (BusRequest fault) →
    bus → Except (Error fault) α × bus
  | next, [] => next []
  | next, request :: requests =>
      port.ask request fun answer => askAll (fun answers => next (answer :: answers)) requests

variable {port} {calls made : List BusCall} {requests : List (BusRequest fault)}
  {before middle after : bus} {answers : List Bytes} {error : AccessError fault}

theorem ask_done {call : BusCall} {answer : Bytes}
    {next : Bytes → bus → Except (Error fault) α × bus}
    (done : port.carry call before = (.ok answer, middle)) :
    port.ask (.ok call) next before = next answer middle := by
  unfold ask
  dsimp only
  rw [done]

theorem ask_failed {call : BusCall} {fault : fault}
    {next : Bytes → bus → Except (Error _) α × bus}
    (fails : port.carry call before = (.error fault, after)) :
    port.ask (.ok call) next before = (.error (.bus (.bus fault)), after) := by
  unfold ask
  dsimp only
  rw [fails]

theorem Succeeds.askAll_eq (succeeds : port.Succeeds calls before answers after)
    (next : List Bytes → bus → Except (Error fault) α × bus) :
    port.askAll next (calls.map .ok) before = next answers after := by
  induction succeeds generalizing next with
  | nil => rfl
  | cons done _ ih => exact (ask_done done).trans (ih _)

theorem Stops.askAll_eq (stops : port.Stops requests before made error after)
    (next : List Bytes → bus → Except (Error fault) α × bus) :
    port.askAll next requests before = (.error (.bus error), after) := by
  induction stops generalizing next with
  | refused => rfl
  | failed fails => exact ask_failed fails
  | later done _ ih => exact (ask_done done).trans (ih _)

theorem Succeeds.length_eq (succeeds : port.Succeeds calls before answers after) :
    answers.length = calls.length := by
  induction succeeds with
  | nil => rfl
  | cons _ _ ih => exact congrArg (· + 1) ih

theorem succeeds_or_stops (port : Port bus fault) (requests : List (BusRequest fault))
    (before : bus) :
    (∃ calls answers after, requests = calls.map .ok ∧ port.Succeeds calls before answers after) ∨
      ∃ made error after, port.Stops requests before made error after := by
  induction requests generalizing before with
  | nil => exact .inl ⟨[], [], before, rfl, .nil⟩
  | cons request requests ih =>
      cases request with
      | error refusal => exact .inr ⟨[], refusal, before, .refused⟩
      | ok call =>
          cases carried : port.carry call before with
          | mk result middle =>
              cases result with
              | error fault => exact .inr ⟨[call], .bus fault, middle, .failed carried⟩
              | ok answer =>
                  obtain ⟨calls, answers, after, rfl, rest⟩ | ⟨made, error, after, stops⟩ :=
                    ih middle
                  · exact .inl ⟨call :: calls, answer :: answers, after, rfl, .cons carried rest⟩
                  · exact .inr ⟨call :: made, error, after, .later carried stops⟩

theorem Stops.isPrefix (stops : port.Stops requests before made error after) :
    made.map .ok <+: requests := by
  induction stops with
  | refused => exact List.nil_prefix
  | failed _ => exact List.prefix_append [_] _
  | later _ _ ih => exact (List.prefix_cons_inj _).mpr ih

theorem Stops.not_succeeds (stops : port.Stops (calls.map .ok) before made error after)
    (later : bus) : ¬ port.Succeeds calls before answers later := by
  intro succeeds
  have ended := stops.askAll_eq (α := Unit) fun _ after => (.ok (), after)
  rw [succeeds.askAll_eq] at ended
  cases (Prod.mk.inj ended).1

theorem Succeeds.append {more : List BusCall} {further : List Bytes}
    (first : port.Succeeds calls before answers middle)
    (second : port.Succeeds more middle further after) :
    port.Succeeds (calls ++ more) before (answers ++ further) after := by
  induction first with
  | nil => exact second
  | cons done _ ih => exact .cons done (ih second)

theorem Succeeds.append_stops (first : port.Succeeds calls before answers middle)
    (stops : port.Stops requests middle made error after) :
    port.Stops (calls.map .ok ++ requests) before (calls ++ made) error after := by
  induction first with
  | nil => exact stops
  | cons done _ ih => exact .later done (ih stops)

theorem Stops.append (stops : port.Stops requests before made error after)
    (more : List (BusRequest fault)) :
    port.Stops (requests ++ more) before made error after := by
  induction stops with
  | refused => exact .refused
  | failed fails => exact .failed fails
  | later done _ ih => exact .later done ih

theorem askAll_append (next : List Bytes → bus → Except (Error fault) α × bus)
    (first second : List (BusRequest fault)) (before : bus) :
    port.askAll next (first ++ second) before =
      port.askAll (fun answers => port.askAll (fun more => next (answers ++ more)) second) first
        before := by
  induction first generalizing next before with
  | nil => rfl
  | cons request first ih => exact port.ask_congr fun _ after => ih _ after

end Port

/-! ### The plan -/

namespace BringUp

open Port

variable {bus fault : Type}

def identification (config : DeviceConfig) : List BusCall :=
  [.reset, .configure config.startupSpeed, .read [0x00] 4]

/-- The write of an entry of the setup, or why there is none. -/
def setupRequest (entry : RegisterWrite) : BusRequest fault :=
  if 8 < entry.width then
    .error (.invalidWidth entry.width)
  else if 0x3f < entry.index ∨ 0x7fff < entry.subAddress.toNat + entry.width then
    .error (.invalidRegister entry.index entry.subAddress entry.width)
  else
    .ok (.write (Command.header ⟨.write, entry.index, entry.subAddress⟩)
      (Bytes.littleEndian entry.width entry.value.toNat))

def completion (config : DeviceConfig) : List (BusRequest fault) :=
  .ok (.read [0x06] 5) :: (config.setup.map setupRequest ++
    [.ok (.write [0x83] (Bytes.littleEndian 4
      (config.panId.toNat * 2 ^ 16 + config.shortAddress.toNat))),
    .ok (.configure config.operatingSpeed)])

def plan (config : DeviceConfig) : List (BusRequest fault) :=
  (identification config).map .ok ++ completion config

theorem writeValue_eq_setupRequest (entry : RegisterWrite) :
    (.writeValue entry.index entry.subAddress entry.value entry.width : BusRequest fault) =
      setupRequest entry := by
  have widest : RegisterOperation.maxWidth = 8 := rfl
  unfold BusRequest.writeValue setupRequest
  rw [widest]
  split
  · rfl
  · rename_i narrow
    rw [Bytes.littleEndian_length]
    split
    · rename_i invalid
      have refused : (encodeHeader entry.index entry.subAddress entry.width .write :
          Except (AccessError fault) Bytes) =
            .error (.invalidRegister entry.index entry.subAddress entry.width) := by
        have bound := entry.subAddress.toNat_lt
        have word : UInt64.size = 2 ^ 64 := rfl
        refine encodeHeader_eq_invalid_iff.mpr (invalid.imp_right fun beyond => ⟨beyond, ?_⟩)
        omega
      rw [refused]
      rfl
    · rename_i valid
      have known : entry.index ≤ maxRegisterIndex :=
        UInt8.not_lt.mp fun tooHigh => valid (.inl tooHigh)
      have inside : entry.subAddress.toNat + entry.width ≤ maxSubAddress :=
        Nat.le_of_not_lt fun beyond => valid (.inr beyond)
      rw [encodeHeader_eq_ok_iff.mpr ⟨known, inside, rfl⟩]
      rfl

theorem setupRequest_eq_ok {entry : RegisterWrite} {call : BusCall}
    (made : (setupRequest entry : BusRequest fault) = .ok call) :
    entry.index ≤ maxRegisterIndex ∧ entry.subAddress.toNat ≤ maxSubAddress ∧
      call = .write (Command.header ⟨.write, entry.index, entry.subAddress⟩)
        (Bytes.littleEndian entry.width entry.value.toNat) := by
  unfold setupRequest at made
  split at made
  · cases made
  · split at made
    · cases made
    · rename_i valid
      refine ⟨UInt8.not_lt.mp fun tooHigh => valid (.inl tooHigh), ?_, (Except.ok.inj made).symm⟩
      have inside : entry.subAddress.toNat + entry.width ≤ maxSubAddress :=
        Nat.le_of_not_lt fun beyond => valid (.inr beyond)
      exact Nat.le_trans (Nat.le_add_right _ _) inside

/-- What the device takes the call for: a write of the low bytes of the entry's value to the
entry's register, from the sub-address on. -/
def Writes (call : BusCall) (entry : RegisterWrite) (subAddress : UInt16) : Prop :=
  ∃ header data, call = .write header data ∧
    (∀ rest, Command.decode? (header ++ rest) = some (⟨.write, entry.index, subAddress⟩, rest)) ∧
    data.length = entry.width ∧
    Bytes.fromLittleEndian data = entry.value.toNat % 256 ^ entry.width

theorem Writes.unique {call : BusCall} {entry : RegisterWrite} {subAddress other : UInt16}
    (writes : Writes call entry subAddress) (also : Writes call entry other) :
    subAddress = other := by
  obtain ⟨header, data, rfl, reads, _⟩ := writes
  obtain ⟨_, _, same, alsoReads, _⟩ := also
  cases same
  cases (reads []).symm.trans (alsoReads [])
  rfl

theorem setupRequest_writes {entry : RegisterWrite} {call : BusCall}
    (made : (setupRequest entry : BusRequest fault) = .ok call) :
    Writes call entry (if entry.subAddress = 128 then 0 else entry.subAddress) := by
  obtain ⟨known, inside, rfl⟩ := setupRequest_eq_ok made
  exact ⟨_, _, rfl, Command.decode?_header known inside, Bytes.littleEndian_length _ _,
    Bytes.fromLittleEndian_littleEndian _ _⟩

theorem setupRequest_writes_iff {entry : RegisterWrite} {call : BusCall}
    (made : (setupRequest entry : BusRequest fault) = .ok call) :
    Writes call entry entry.subAddress ↔ entry.subAddress ≠ 128 := by
  have writes := setupRequest_writes made
  constructor
  · intro exactly last
    have start := writes.unique exactly
    rw [if_pos last, last] at start
    cases start
  · intro other
    rw [if_neg other] at writes
    exact writes

/-- No two entries that differ in what they write or where ask for the same call. -/
theorem setupRequest_injective {entry other : RegisterWrite} {call : BusCall}
    (made : (setupRequest entry : BusRequest fault) = .ok call)
    (same : (setupRequest other : BusRequest fault) = .ok call) :
    other.index = entry.index ∧ other.subAddress = entry.subAddress ∧
      other.width = entry.width ∧
      other.value.toNat % 256 ^ entry.width = entry.value.toNat % 256 ^ entry.width := by
  obtain ⟨known, inside, rfl⟩ := setupRequest_eq_ok made
  obtain ⟨otherKnown, otherInside, calls⟩ := setupRequest_eq_ok same
  obtain ⟨headers, data⟩ := BusCall.write.inj calls
  obtain ⟨_, index, subAddress⟩ := Command.mk.inj
    (Command.header_injective otherKnown otherInside known inside headers.symm)
  have width : other.width = entry.width := by
    have lengths := congrArg List.length data
    rw [Bytes.littleEndian_length, Bytes.littleEndian_length] at lengths
    exact lengths.symm
  have values := congrArg Bytes.fromLittleEndian data
  rw [Bytes.fromLittleEndian_littleEndian, Bytes.fromLittleEndian_littleEndian, width] at values
  exact ⟨index, subAddress, width, values.symm⟩

theorem addressValue_toNat (panId shortAddress : UInt16) :
    (addressValue panId shortAddress).toNat = panId.toNat * 2 ^ 16 + shortAddress.toNat := by
  have high := panId.toNat_lt
  have low := shortAddress.toNat_lt
  unfold addressValue
  rw [UInt64.toNat_or, UInt64.toNat_shiftLeft, UInt16.toNat_toUInt64, UInt16.toNat_toUInt64]
  have shift : (16 : UInt64).toNat % 64 = 16 := rfl
  rw [shift, Nat.shiftLeft_eq, Nat.mod_eq_of_lt (by omega), Nat.mul_comm,
    Nat.two_pow_add_eq_or_of_lt low]

def complete (port : Port bus fault) (config : DeviceConfig) (identity : Bytes) :
    bus → Except (Error fault) DeviceInfo × bus :=
  let deviceId := UInt32.ofNat (Bytes.fromLittleEndian identity)
  if deviceId ≠ Bits.deviceId then
    fun before => (.error (.initializationFault deviceId), port.disable before)
  else
    port.askAll (fun answers after =>
      (.ok {
        deviceId
        timestamp := Instant.ofTicks? (UInt64.ofNat (Bytes.fromLittleEndian (answers.headD [])))
        panId := config.panId
        shortAddress := config.shortAddress }, after)) (completion config)

theorem applySetup_eq_askAll {α : Type} (port : Port bus fault)
    (next : bus → Except (Error fault) α × bus) (entries : List RegisterWrite) :
    port.applySetup next entries = port.askAll (fun _ => next) (entries.map setupRequest) := by
  induction entries with
  | nil => rfl
  | cons entry rest ih =>
      rw [applySetup, writeValue_eq_setupRequest, ih]
      rfl

theorem bringUp_eq_askAll (port : Port bus fault) (config : DeviceConfig) (before : bus) :
    port.bringUp config before =
      port.askAll (fun answers => complete port config (answers.getD 2 []))
        ((identification config).map .ok) before := by
  refine ask_congr _ fun _ before => ask_congr _ fun _ before => ?_
  refine ask_congr _ fun identity before => ?_
  change _ = complete port config identity before
  unfold complete
  rw [UInt64.toUInt32_ofNat']
  split
  · rfl
  · refine ask_congr _ fun time before => ?_
    rw [applySetup_eq_askAll, askAll_append]
    refine congrArg (fun next => port.askAll next (config.setup.map setupRequest) before)
      (funext fun _ => funext fun before => ?_)
    rw [← addressValue_toNat]
    rfl

theorem ofTicks?_fromLittleEndian {time : Bytes} (whole : time.length = 5) :
    Instant.ofTicks? (UInt64.ofNat (Bytes.fromLittleEndian time)) =
      some ⟨UInt64.ofNat (Bytes.fromLittleEndian time)⟩ := by
  have bound := Bytes.fromLittleEndian_lt time
  rw [whole] at bound
  have last : maxTicks.toNat = 256 ^ 5 - 1 := rfl
  refine if_pos (UInt64.le_iff_toNat_le.mpr ?_)
  rw [UInt64.toNat_ofNat_of_lt' (by rw [UInt64.size]; omega), last]
  omega

/-! ### The ends of a bring-up -/

/-- How a bring-up ends: after which calls, with which result, and what it leaves. -/
inductive Ends (port : Port bus fault) (config : DeviceConfig) (before : bus) :
    List BusCall → Except (Error fault) DeviceInfo → bus → Prop
  | unidentified {made : List BusCall} {error : AccessError fault} {after : bus}
      (stops : port.Stops ((identification config).map .ok) before made error after) :
      Ends port config before made (.error (.bus error)) after
  | foreign {ofReset ofConfigure identity : Bytes} {after : bus}
      (identified : port.Succeeds (identification config) before [ofReset, ofConfigure, identity]
        after)
      (wrong : UInt32.ofNat (Bytes.fromLittleEndian identity) ≠ 0xdeca0130) :
      Ends port config before (identification config)
        (.error (.initializationFault (UInt32.ofNat (Bytes.fromLittleEndian identity))))
        (port.disable after)
  | incomplete {ofReset ofConfigure identity : Bytes} {middle after : bus} {made : List BusCall}
      {error : AccessError fault}
      (identified : port.Succeeds (identification config) before [ofReset, ofConfigure, identity]
        middle)
      (right : UInt32.ofNat (Bytes.fromLittleEndian identity) = 0xdeca0130)
      (stops : port.Stops (completion config) middle made error after) :
      Ends port config before (identification config ++ made) (.error (.bus error)) after
  | ready {ofReset ofConfigure identity time : Bytes} {middle after : bus} {calls : List BusCall}
      {answers : List Bytes}
      (identified : port.Succeeds (identification config) before [ofReset, ofConfigure, identity]
        middle)
      (right : UInt32.ofNat (Bytes.fromLittleEndian identity) = 0xdeca0130)
      (valid : (completion config : List (BusRequest fault)) = calls.map .ok)
      (completed : port.Succeeds calls middle (time :: answers) after)
      (whole : time.length = 5) :
      Ends port config before (identification config ++ calls)
        (.ok {
          deviceId := UInt32.ofNat (Bytes.fromLittleEndian identity)
          timestamp := some ⟨UInt64.ofNat (Bytes.fromLittleEndian time)⟩
          panId := config.panId
          shortAddress := config.shortAddress }) after

variable {port : Port bus fault} {config : DeviceConfig} {before after : bus}
  {made : List BusCall} {result : Except (Error fault) DeviceInfo}

theorem Ends.bringUp_eq (ends : Ends port config before made result after) :
    port.bringUp config before = (result, after) := by
  rw [bringUp_eq_askAll]
  cases ends with
  | unidentified stops => exact stops.askAll_eq _
  | foreign identified wrong =>
      rw [identified.askAll_eq]
      exact congrFun (if_pos wrong) _
  | incomplete identified right stops =>
      rw [identified.askAll_eq]
      refine (congrFun (if_neg (not_not_intro right)) _).trans ?_
      exact stops.askAll_eq _
  | ready identified right valid completed whole =>
      rw [identified.askAll_eq]
      refine (congrFun (if_neg (not_not_intro right)) _).trans ?_
      rw [valid, completed.askAll_eq]
      dsimp only [List.headD_cons]
      rw [ofTicks?_fromLittleEndian whole]
      rfl

theorem Ends.off_of_foreign {deviceId : UInt32} {before after : Bus}
    (ends : Ends Bus.port config before made (.error (.initializationFault deviceId)) after) :
    deviceId ≠ 0xdeca0130 ∧ after.enabled = false := by
  cases ends with
  | foreign identified wrong => exact ⟨wrong, rfl⟩

theorem exists_ends (port : Port bus fault) (config : DeviceConfig) (before : bus) :
    ∃ made result after, Ends port config before made result after := by
  obtain ⟨calls, answers, middle, same, identified⟩ | ⟨made, error, after, stops⟩ :=
    port.succeeds_or_stops ((identification config).map .ok) before
  · obtain rfl := (List.map_inj_right fun _ _ => Except.ok.inj).mp same
    obtain ⟨ofReset, ofConfigure, identity, rfl⟩ := List.length_eq_three.mp identified.length_eq
    by_cases right : UInt32.ofNat (Bytes.fromLittleEndian identity) = 0xdeca0130
    · obtain ⟨calls, answers, after, valid, completed⟩ | ⟨made, error, after, stops⟩ :=
        port.succeeds_or_stops (completion config) middle
      · obtain ⟨call, rest, rfl, reads, _⟩ := List.map_eq_cons_iff.mp valid.symm
        cases completed with
        | @cons _ _ _ timed _ time later done rest =>
            cases reads
            exact ⟨_, _, after, .ready identified right valid (.cons done rest)
              (port.read_length done)⟩
      · exact ⟨_, _, after, .incomplete identified right stops⟩
    · exact ⟨_, _, _, .foreign identified right⟩
  · exact ⟨made, _, after, .unidentified stops⟩

theorem bringUp_eq_iff :
    port.bringUp config before = (result, after) ↔
      ∃ made, Ends port config before made result after := by
  constructor
  · intro ended
    obtain ⟨made, other, last, ends⟩ := exists_ends port config before
    obtain ⟨rfl, rfl⟩ := Prod.mk.inj (ended.symm.trans ends.bringUp_eq)
    exact ⟨made, ends⟩
  · rintro ⟨made, ends⟩
    exact ends.bringUp_eq

theorem Ends.isPrefix (ends : Ends port config before made result after) :
    made.map .ok <+: (plan config : List (BusRequest fault)) := by
  cases ends with
  | unidentified stops => exact stops.isPrefix.trans (List.prefix_append _ _)
  | foreign identified wrong => exact List.prefix_append _ _
  | incomplete identified right stops =>
      rw [List.map_append]
      exact (List.prefix_append_right_inj _).mpr stops.isPrefix
  | ready identified right valid completed whole =>
      rw [List.map_append, ← valid]
      exact List.prefix_rfl

theorem Ends.ok_iff (ends : Ends port config before made result after) :
    (∃ info, result = .ok info) ↔
      (plan config : List (BusRequest fault)) = made.map .ok ∧
        ∃ answers, port.Succeeds made before answers after := by
  have stopped {made : List BusCall} {error : AccessError fault} {after : bus}
      (stops : port.Stops (plan config) before made error after) :
      ¬ ((plan config : List (BusRequest fault)) = made.map .ok ∧
        ∃ answers, port.Succeeds made before answers after) := by
    rintro ⟨all, answers, succeeds⟩
    rw [all] at stops
    exact stops.not_succeeds after succeeds
  cases ends with
  | unidentified stops => exact iff_of_false nofun (stopped (stops.append _))
  | foreign identified wrong =>
      refine iff_of_false nofun ?_
      rintro ⟨all, _⟩
      exact List.cons_ne_nil _ _ (List.append_right_eq_self.mp all)
  | incomplete identified right stops =>
      exact iff_of_false nofun (stopped (identified.append_stops stops))
  | ready identified right valid completed whole =>
      refine iff_of_true ⟨_, rfl⟩ ⟨?_, _, identified.append completed⟩
      rw [List.map_append, ← valid]
      rfl

end BringUp

namespace Device

variable {device back : Device .uninitialized} {config : DeviceConfig}

theorem start_eq_ok_iff {ready : Device .ready} :
    device.start config = .ok ready ↔ ready.sequence = device.sequence ∧
      (DeviceOperation.bringUp config).perform device.bus = (.ok ready.info, ready.bus) := by
  unfold start
  cases (DeviceOperation.bringUp config).perform device.bus with
  | mk result after =>
      cases result with
      | error fault => exact iff_of_false nofun fun brought => nomatch (Prod.mk.inj brought.2).1
      | ok info =>
          constructor
          · rintro ⟨⟩
            exact ⟨rfl, rfl⟩
          · intro brought
            cases ready
            obtain ⟨rfl, ⟨⟩⟩ := brought
            rfl

theorem start_eq_error_iff {error : Error BusFault} :
    device.start config = .error (error, back) ↔ back = { device with bus := back.bus } ∧
      (DeviceOperation.bringUp config).perform device.bus = (.error error, back.bus) := by
  unfold start
  cases (DeviceOperation.bringUp config).perform device.bus with
  | mk result after =>
      cases result with
      | ok info => exact iff_of_false nofun fun brought => nomatch (Prod.mk.inj brought.2).1
      | error fault =>
          constructor
          · rintro ⟨⟩
            exact ⟨rfl, rfl⟩
          · rintro ⟨same, brought⟩
            rw [same]
            cases brought
            rfl

end Device

/-- A bring-up goes by its plan, whatever the bus does. Its calls are a first part of the plan:
a call that fails and an entry of the setup that no header can address end it with their own
error, a device of another kind ends it once it is identified and with the bus turned off,
and all of the plan is carried out exactly if it brings the device up. The device takes the
write of an entry for what it is, except at sub-address 128: that entry reaches the start of
its register. The same holds of the device on the serial bus, which keeps its sequence
number. -/
theorem bringUp_carries_out_plan (config : DeviceConfig) :
    (∀ {bus fault : Type} (port : Port bus fault) (before after : bus)
      (result : Except (Error fault) DeviceInfo),
      port.bringUp config before = (result, after) ↔
        ∃ made, BringUp.Ends port config before made result after) ∧
    (∀ {bus fault : Type} {port : Port bus fault} {before after : bus} {made : List BusCall}
      {result : Except (Error fault) DeviceInfo},
      BringUp.Ends port config before made result after →
        made.map .ok <+: (BringUp.plan config : List (BusRequest fault)) ∧
        ((∃ info, result = .ok info) ↔
          (BringUp.plan config : List (BusRequest fault)) = made.map .ok ∧
            ∃ answers, port.Succeeds made before answers after)) ∧
    (∀ {fault : Type} {entry : RegisterWrite} {call : BusCall},
      (BringUp.setupRequest entry : BusRequest fault) = .ok call →
        BringUp.Writes call entry (if entry.subAddress = 128 then 0 else entry.subAddress) ∧
        (BringUp.Writes call entry entry.subAddress ↔ entry.subAddress ≠ 128) ∧
        ∀ other : RegisterWrite, (BringUp.setupRequest other : BusRequest fault) = .ok call →
          other.index = entry.index ∧ other.subAddress = entry.subAddress ∧
          other.width = entry.width ∧
          other.value.toNat % 256 ^ entry.width = entry.value.toNat % 256 ^ entry.width) ∧
    ∀ device : Device .uninitialized,
      (∀ ready : Device .ready, device.start config = .ok ready ↔
        ready.sequence = device.sequence ∧
          ∃ made, BringUp.Ends Bus.port config device.bus made (.ok ready.info) ready.bus) ∧
      (∀ (error : Error BusFault) (back : Device .uninitialized),
        device.start config = .error (error, back) ↔
          back = { device with bus := back.bus } ∧
            ∃ made, BringUp.Ends Bus.port config device.bus made (.error error) back.bus) ∧
      ∀ (deviceId : UInt32) (back : Device .uninitialized),
        device.start config = .error (.initializationFault deviceId, back) →
          deviceId ≠ 0xdeca0130 ∧ back.bus.enabled = false := by
  refine ⟨fun port before after result => BringUp.bringUp_eq_iff,
    fun ends => ⟨ends.isPrefix, ends.ok_iff⟩, ?_, fun device => ?_⟩
  · intro fault entry call made
    exact ⟨BringUp.setupRequest_writes made, BringUp.setupRequest_writes_iff made,
      fun other same => BringUp.setupRequest_injective made same⟩
  · have failed (error : Error BusFault) (back : Device .uninitialized) :
        device.start config = .error (error, back) ↔ back = { device with bus := back.bus } ∧
          ∃ made, BringUp.Ends Bus.port config device.bus made (.error error) back.bus := by
      rw [Device.start_eq_error_iff, DeviceOperation.bringUp_perform, BringUp.bringUp_eq_iff]
    refine ⟨fun ready => ?_, failed, fun deviceId back foreign => ?_⟩
    · rw [Device.start_eq_ok_iff, DeviceOperation.bringUp_perform, BringUp.bringUp_eq_iff]
    · obtain ⟨_, made, ends⟩ := (failed _ back).mp foreign
      exact ends.off_of_foreign

def foreignDevice : Device .uninitialized :=
  .ofBus { registers := ({} : RegisterFile).store 0x00 0 [0xff, 0xff, 0xff, 0xff] }

/-- The second entry of a setup names a register that there is not: the first entry is
written, and nothing follows it. A device of another kind comes back with its bus off. -/
theorem bringUp_stops_at_invalid_entry :
    let config : DeviceConfig :=
      { setup := [⟨0x04, 0, 0x1200, 4⟩, ⟨0x40, 0, 1, 4⟩, ⟨0x04, 0, 0, 4⟩] }
    let made : List BusCall := [.reset, .configure 2000000, .read [0x00] 4, .read [0x06] 5,
      .write [0x84] [0x00, 0x12, 0x00, 0x00]]
    let error : Error BusFault := .bus (.invalidRegister 0x40 0 4)
    (∃ after, BringUp.Ends Bus.port config {} made (.error error) after ∧
      made.map .ok <+: (BringUp.plan config : List (BusRequest BusFault)) ∧
      (Device.ofBus {}).start config = .error (error, Device.ofBus after)) ∧
    BringUp.Writes (.write [0x84] [0x00, 0x12, 0x00, 0x00]) ⟨0x04, 0, 0x1200, 4⟩ 0 ∧
    ∃ back, foreignDevice.start config = .error (.initializationFault 0xffffffff, back) ∧
      back.bus.enabled = false := by
  intro config made error
  obtain ⟨_, followed, written, started⟩ := bringUp_carries_out_plan config
  refine ⟨?_, ?_, ?_⟩
  · have ended : ∃ after, BringUp.Ends Bus.port config {} made (.error error) after :=
      ⟨_, .incomplete (.cons rfl (.cons rfl (.cons rfl .nil))) (by decide)
        (.later rfl (.later rfl .refused))⟩
    obtain ⟨after, ends⟩ := ended
    refine ⟨after, ends, (followed ends).1, ?_⟩
    exact ((started (Device.ofBus {})).2.1 error _).mpr ⟨rfl, made, ends⟩
  · have first : (BringUp.setupRequest ⟨0x04, 0, 0x1200, 4⟩ : BusRequest BusFault) =
        .ok (.write [0x84] [0x00, 0x12, 0x00, 0x00]) := rfl
    exact (written first).2.1.mpr (by decide)
  · have failed : ∃ deviceId back, deviceId = 0xffffffff ∧
        foreignDevice.start config = .error (.initializationFault deviceId, back) :=
      ⟨_, _, by decide, rfl⟩
    obtain ⟨_, back, rfl, failed⟩ := failed
    exact ⟨back, failed, ((started foreignDevice).2.2 _ back failed).2⟩

/-- The entry at sub-address 128 goes over the bus as a write to the start of its register,
and the device is brought up all the same. -/
theorem bringUp_misplaces_entry_at_128 :
    let entry : RegisterWrite := ⟨0x11, 128, 0xdeadbeef, 4⟩
    (∃ ready, (Device.ofBus {}).start { setup := [entry] } = .ok ready ∧
      .write [0xd1, 0x00] [0xef, 0xbe, 0xad, 0xde] ∈ ready.bus.trace.map Prod.snd ∧
      ready.bus.registers.read 0x11 0 4 = [0xef, 0xbe, 0xad, 0xde] ∧
      ready.bus.registers.read 0x11 128 4 = [0x00, 0x00, 0x00, 0x00]) ∧
    ¬ BringUp.Writes (.write [0xd1, 0x00] [0xef, 0xbe, 0xad, 0xde]) entry 128 := by
  intro entry
  constructor
  · have evaluated : ((Device.ofBus {}).start { setup := [entry] }).toOption.map (fun ready =>
        (decide (.write [0xd1, 0x00] [0xef, 0xbe, 0xad, 0xde] ∈ ready.bus.trace.map Prod.snd),
          ready.bus.registers.read 0x11 0 4, ready.bus.registers.read 0x11 128 4)) =
        some (true, [0xef, 0xbe, 0xad, 0xde], [0x00, 0x00, 0x00, 0x00]) := by
      decide +kernel
    cases started : (Device.ofBus {}).start { setup := [entry] } with
    | error failed =>
        rw [started] at evaluated
        cases evaluated
    | ok ready =>
        rw [started] at evaluated
        have seen := Option.some.inj evaluated
        simp only [Prod.mk.injEq, decide_eq_true_eq] at seen
        exact ⟨ready, rfl, seen⟩
  · rintro ⟨header, data, same, reads, _⟩
    cases same
    have read : Command.decode? [0xd1, 0x00] = some (⟨.write, 0x11, 128⟩, []) := reads []
    revert read
    decide

end UwbRadio
