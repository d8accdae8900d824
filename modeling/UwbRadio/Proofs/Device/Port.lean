import UwbRadio.Device
import UwbRadio.Proofs.Bus.Reads

/-!
Bring-up over any bus. A device is brought up by one call of its bus after the other, and
what it asks for does not depend on what kind of bus this is: `Port.bringUp` is the
bring-up over a bus of which nothing is known but that a read fills what is to be read.
On the serial bus it is the bring-up of the device.
-/

namespace UwbRadio

inductive BusCall
  | reset
  | configure (hertz : UInt32)
  | read (header : Bytes) (length : Nat)
  | write (header data : Bytes)
  deriving DecidableEq

abbrev BusRequest (fault : Type) := Except (AccessError fault) BusCall

namespace BusRequest

variable {fault : Type}

def readValue (index : UInt8) (subAddress : UInt16) (width : Nat) : BusRequest fault :=
  if width > RegisterOperation.maxWidth then
    .error (.invalidWidth width)
  else
    (encodeHeader index subAddress width .read).map fun header => .read header width

def writeValue (index : UInt8) (subAddress : UInt16) (value : UInt64) (width : Nat) :
    BusRequest fault :=
  if width > RegisterOperation.maxWidth then
    .error (.invalidWidth width)
  else
    (encodeHeader index subAddress (Bytes.littleEndian width value.toNat).length .write).map
      fun header => .write header (Bytes.littleEndian width value.toNat)

end BusRequest

structure Port (bus fault : Type) where
  /-- What a call brings and what it leaves; only a read brings bytes. -/
  carry : BusCall → bus → Except fault Bytes × bus
  disable : bus → bus
  read_length : ∀ {header : Bytes} {length : Nat} {before after : bus} {data : Bytes},
    carry (.read header length) before = (.ok data, after) → data.length = length

namespace Port

variable {bus fault α : Type} (port : Port bus fault)

/-- Make the call and go on with what it brings. A request that is none ends with its
reason, a call that fails with its fault. -/
def ask (request : BusRequest fault) (next : Bytes → bus → Except (Error fault) α × bus)
    (before : bus) : Except (Error fault) α × bus :=
  match request with
  | .error refused => (.error (.bus refused), before)
  | .ok call =>
      match port.carry call before with
      | (.error fault, after) => (.error (.bus (.bus fault)), after)
      | (.ok answer, after) => next answer after

theorem ask_congr {request : BusRequest fault}
    {next other : Bytes → bus → Except (Error fault) α × bus} {before : bus}
    (same : ∀ answer after, next answer after = other answer after) :
    port.ask request next before = port.ask request other before :=
  congrArg (fun next => port.ask request next before)
    (funext fun answer => funext fun after => same answer after)

def applySetup (next : bus → Except (Error fault) α × bus) :
    List RegisterWrite → bus → Except (Error fault) α × bus
  | [] => next
  | entry :: rest =>
      port.ask (.writeValue entry.index entry.subAddress entry.value entry.width) fun _ =>
        applySetup next rest

def bringUp (config : DeviceConfig) : bus → Except (Error fault) DeviceInfo × bus :=
  port.ask (.ok .reset) fun _ =>
  port.ask (.ok (.configure config.startupSpeed)) fun _ =>
  port.ask (.readValue Register.deviceId.index Register.deviceId.subAddress
    Register.deviceId.width) fun identity =>
  let deviceId := (UInt64.ofNat (Bytes.fromLittleEndian identity)).toUInt32
  if deviceId ≠ Bits.deviceId then
    fun before => (.error (.initializationFault deviceId), port.disable before)
  else
    port.ask (.readValue Register.systemTime.index Register.systemTime.subAddress
      Register.systemTime.width) fun time =>
    port.applySetup (port.ask (.writeValue Register.panAddress.index
        Register.panAddress.subAddress (addressValue config.panId config.shortAddress)
        Register.panAddress.width) fun _ =>
      port.ask (.ok (.configure config.operatingSpeed)) fun _ after =>
        (.ok {
          deviceId
          timestamp := Instant.ofTicks? (UInt64.ofNat (Bytes.fromLittleEndian time))
          panId := config.panId
          shortAddress := config.shortAddress }, after)) config.setup

end Port

/-! ### The serial bus -/

namespace Bus

def carry : BusCall → Bus → Except BusFault Bytes × Bus
  | .reset, bus =>
      match Bus.reset.perform bus with
      | (.error (.bus fault), after) => (.error fault, after)
      | (_, after) => (.ok [], after)
  | .configure hertz, bus => (.ok [], bus.configure hertz)
  | .read header length, bus => Bus.read header length bus
  | .write header data, bus =>
      let (result, after) := Bus.write header data bus
      (result.map fun _ => [], after)

def port : Port Bus BusFault where
  carry := carry
  disable := Bus.disable
  read_length := fun read => (Bus.read_ok read).2

end Bus

namespace Operation

variable {α β : Type} {operation : RegisterOperation α} {request : BusRequest BusFault}
  {value : Bytes → α}

/-- All that the operation does is to make one call of the bus. -/
def Asks (operation : RegisterOperation α) (request : BusRequest BusFault)
    (value : Bytes → α) : Prop :=
  ∀ bus, operation.perform bus =
    match request with
    | .error refused => (.error refused, bus)
    | .ok call =>
        (((Bus.carry call bus).1.mapError AccessError.bus).map value, (Bus.carry call bus).2)

theorem lift_perform (operation : RegisterOperation α) (bus : Bus) :
    (Operation.lift operation).perform bus =
      ((operation.perform bus).1.mapError Error.bus, (operation.perform bus).2) := rfl

theorem Asks.lift_bind (asks : operation.Asks request value) (next : α → DeviceOperation β)
    (bus : Bus) :
    (Operation.lift operation >>= next).perform bus =
      Bus.port.ask request (fun answer => (next (value answer)).perform) bus := by
  rw [perform_bind, lift_perform, asks bus]
  unfold Port.ask
  cases request with
  | error refused => rfl
  | ok call =>
      have carried : Bus.port.carry call bus = Bus.carry call bus := rfl
      dsimp only
      rw [carried]
      cases Bus.carry call bus with
      | mk result after => cases result <;> rfl

theorem reset_perform (bus : Bus) :
    Bus.reset.perform bus =
      match Bus.setResetLine false bus with
      | (.error fault, after) => (.error (.bus fault), after)
      | (.ok _, low) =>
          match Bus.setResetLine true (low.record (.microseconds 1)) with
          | (.error fault, after) => (.error (.bus fault), after)
          | (.ok _, high) => (.ok (), high.record (.milliseconds 5)) := by
  rw [Bus.reset, perform_bind, perform_ofBus]
  cases Bus.setResetLine false bus with
  | mk result low =>
      cases result with
      | error fault => rfl
      | ok done =>
          dsimp only [Except.mapError]
          rw [perform_bind]
          change (Operation.ofBus (Bus.setResetLine true) >>= fun _ => Operation.change fun bus =>
            bus.record (.milliseconds 5)).perform (low.record (.microseconds 1)) = _
          rw [perform_bind, perform_ofBus]
          cases Bus.setResetLine true (low.record (.microseconds 1)) with
          | mk result high => cases result <;> rfl

theorem reset_asks : Bus.reset.Asks (.ok .reset) fun _ => () := by
  intro bus
  dsimp only [Bus.carry]
  rw [reset_perform]
  cases Bus.setResetLine false bus with
  | mk result low =>
      cases result with
      | error fault => rfl
      | ok done =>
          dsimp only
          cases Bus.setResetLine true (low.record (.microseconds 1)) with
          | mk result high => cases result <;> rfl

theorem ofExcept_bind_asks {header : Except (AccessError BusFault) Bytes}
    {transfer : Bytes → RegisterOperation α} {call : Bytes → BusCall}
    (asks : ∀ header, (transfer header).Asks (.ok (call header)) value) :
    (Operation.ofExcept header >>= transfer).Asks (header.map call) value := by
  intro bus
  cases header with
  | error refused => rfl
  | ok header => exact asks header bus

theorem read_asks (header : Bytes) (length : Nat) :
    (Operation.ofBus (Bus.read header length)).Asks (.ok (.read header length)) id := by
  intro bus
  rw [perform_ofBus]
  dsimp only [Bus.carry]
  cases Bus.read header length bus with
  | mk result after => cases result <;> rfl

theorem write_asks (header data : Bytes) :
    (Operation.ofBus (Bus.write header data)).Asks (.ok (.write header data)) fun _ => () := by
  intro bus
  rw [perform_ofBus]
  dsimp only [Bus.carry]
  cases Bus.write header data bus with
  | mk result after => cases result <;> rfl

theorem Asks.bind_pure (asks : operation.Asks request value) (change : α → β) :
    (operation >>= fun found => pure (change found)).Asks request (change ∘ value) := by
  intro bus
  rw [perform_bind, asks bus]
  cases request with
  | error refused => rfl
  | ok call =>
      dsimp only
      cases Bus.carry call bus with
      | mk result after => cases result <;> rfl

theorem readValue_asks (index : UInt8) (subAddress : UInt16) (width : Nat) :
    (RegisterOperation.readValue index subAddress width).Asks
      (.readValue index subAddress width)
      fun answer => UInt64.ofNat (Bytes.fromLittleEndian answer) := by
  unfold RegisterOperation.readValue BusRequest.readValue
  split
  · exact fun bus => rfl
  · exact (ofExcept_bind_asks fun header => read_asks header width).bind_pure _

theorem writeValue_asks (index : UInt8) (subAddress : UInt16) (value : UInt64) (width : Nat) :
    (RegisterOperation.writeValue index subAddress value width).Asks
      (.writeValue index subAddress value width) fun _ => () := by
  unfold RegisterOperation.writeValue BusRequest.writeValue
  split
  · exact fun bus => rfl
  · exact ofExcept_bind_asks fun header => write_asks header _

theorem change_bind {error : Type} (alter : Bus → Bus) (next : Unit → Operation error β)
    (bus : Bus) :
    (Operation.change alter >>= next).perform bus = (next ()).perform (alter bus) := rfl

theorem ask_configure (hertz : UInt32) (next : Bytes → Bus → Except (Error BusFault) α × Bus)
    (bus : Bus) :
    Bus.port.ask (.ok (.configure hertz)) next bus = next [] (bus.configure hertz) := rfl

theorem lift_bind {γ : Type} (first : RegisterOperation α) (second : α → RegisterOperation β)
    (next : β → DeviceOperation γ) (bus : Bus) :
    (Operation.lift (first >>= second) >>= next).perform bus =
      (Operation.lift first >>= fun value => Operation.lift (second value) >>= next).perform
        bus := by
  rw [perform_bind, lift_perform, perform_bind, perform_bind, lift_perform]
  cases first.perform bus with
  | mk result after =>
      cases result with
      | error fault => rfl
      | ok value =>
          dsimp only [Except.mapError]
          rw [perform_bind, lift_perform]
          rfl

end Operation

namespace DeviceOperation

theorem applySetup_perform {β : Type} (next : DeviceOperation β) (entries : List RegisterWrite)
    (bus : Bus) :
    (Operation.lift (applySetup entries) >>= fun _ => next).perform bus =
      Bus.port.applySetup next.perform entries bus := by
  induction entries generalizing bus with
  | nil => rfl
  | cons entry rest ih =>
      rw [applySetup, Operation.lift_bind, (Operation.writeValue_asks _ _ _ _).lift_bind,
        Port.applySetup]
      exact Bus.port.ask_congr fun _ after => ih after

theorem bringUp_perform (config : DeviceConfig) (bus : Bus) :
    (bringUp config).perform bus = Bus.port.bringUp config bus := by
  unfold bringUp Port.bringUp
  rw [Operation.reset_asks.lift_bind]
  refine Port.ask_congr _ fun _ bus => ?_
  rw [Operation.change_bind, Operation.ask_configure, bind_map_left]
  unfold Register.read
  rw [(Operation.readValue_asks _ _ _).lift_bind]
  refine Port.ask_congr _ fun identity bus => ?_
  dsimp only
  split
  · rfl
  · rw [(Operation.readValue_asks _ _ _).lift_bind]
    refine Port.ask_congr _ fun time bus => ?_
    rw [applySetup_perform]
    refine congrArg (fun next => Bus.port.applySetup next config.setup bus) (funext fun bus => ?_)
    unfold Register.write
    rw [(Operation.writeValue_asks _ _ _ _).lift_bind]
    rfl

end DeviceOperation

end UwbRadio
