import UwbRadio.Clock
import UwbRadio.Config
import UwbRadio.Register.Access
import UwbRadio.Register.Bits

/-!
The life of a device: uninitialized until it has been brought up, then ready until
it is freed. The stage is part of the type, so that only a ready device can be
given an address or be linked. A device that could not be brought up stays
uninitialized and can be tried again.
-/

namespace UwbRadio

inductive Stage
  | uninitialized
  | ready
  deriving DecidableEq

def Stage.describe : Stage → String
  | .uninitialized => "Uninitialized"
  | .ready => "Ready"

structure DeviceInfo where
  deviceId : UInt32 := 0
  timestamp : Option Instant := none
  panId : UInt16 := 0
  shortAddress : UInt16 := 0
  deriving DecidableEq

def DeviceInfo.describe (info : DeviceInfo) : String :=
  let timestamp := match info.timestamp with
    | none => "None"
    | some instant => "Some(" ++ instant.describe ++ ")"
  "DeviceInfo \x7b device_id: " ++ toString info.deviceId.toNat ++
    ", timestamp: " ++ timestamp ++
    ", pan_id: " ++ toString info.panId.toNat ++
    ", short_addr: " ++ toString info.shortAddress.toNat ++ " \x7d"

structure Device (stage : Stage) where
  bus : Bus
  /-- The sequence number of the next frame; it outlives links and restarts. -/
  sequence : UInt8
  info : DeviceInfo

def addressValue (panId shortAddress : UInt16) : UInt64 :=
  panId.toUInt64 <<< 16 ||| shortAddress.toUInt64

abbrev DeviceOperation := Operation (Error BusFault)

namespace DeviceOperation

def applySetup : List RegisterWrite → RegisterOperation Unit
  | [] => return
  | entry :: rest => do
      RegisterOperation.writeValue entry.index entry.subAddress entry.value entry.width
      applySetup rest

def bringUp (config : DeviceConfig) : DeviceOperation DeviceInfo := do
  Operation.lift Bus.reset
  Operation.change fun bus => bus.configure config.startupSpeed
  let deviceId ← UInt64.toUInt32 <$> Operation.lift Register.deviceId.read
  if deviceId ≠ Bits.deviceId then
    Operation.change Bus.disable
    throw (.initializationFault deviceId)
  let time ← Operation.lift Register.systemTime.read
  Operation.lift (applySetup config.setup)
  Operation.lift
    (Register.panAddress.write (addressValue config.panId config.shortAddress))
  Operation.change fun bus => bus.configure config.operatingSpeed
  return {
    deviceId
    timestamp := Instant.ofTicks? time
    panId := config.panId
    shortAddress := config.shortAddress }

def systemTime : DeviceOperation Instant :=
  Instant.wrapping <$> Operation.lift Register.systemTime.read

/-- Reset the digital blocks: run from the crystal, stop the sequencer, clear the
always-on configuration so that it is not loaded again, then pulse the reset. -/
def softReset : DeviceOperation Unit := do
  Operation.lift do
    Register.clockControl.modify fun value =>
      value &&& ~~~Bits.systemClock ||| Bits.crystalClock
    Register.sequencerControl.write Bits.sequencerOff
    Register.wakeConfig.write 0
    Register.alwaysOnConfig.write 0
    Register.alwaysOnControl.write 0
    Register.alwaysOnControl.write Bits.alwaysOnSave
    Register.softReset.write Bits.resetAll
    Operation.change fun bus => bus.record (.microseconds 10)
    Register.softReset.write Bits.resetNone

def enableInterrupts : DeviceOperation Unit :=
  Operation.lift (Register.systemMask.modify fun value => value ||| Bits.engineEvents)

def disableInterrupts : DeviceOperation Unit :=
  Operation.lift (Register.systemMask.write 0)

end DeviceOperation

namespace Device

variable {stage : Stage}

def ofBus (bus : Bus) : Device .uninitialized :=
  { bus, sequence := 0, info := {} }

def perform {error α : Type} (device : Device stage) (operation : Operation error α) :
    Except error α × Device stage :=
  let (result, bus) := operation.perform device.bus
  (result, { device with bus })

def start (device : Device .uninitialized) (config : DeviceConfig) :
    Except (Error BusFault × Device .uninitialized) (Device .ready) :=
  match (DeviceOperation.bringUp config).perform device.bus with
  | (.ok info, bus) => .ok { bus, sequence := device.sequence, info }
  | (.error error, bus) => .error (error, { device with bus })

def setAddress (device : Device .ready) (panId shortAddress : UInt16) :
    Except (Error BusFault) Unit × Device .ready :=
  match device.perform
      (Operation.lift (Register.panAddress.write (addressValue panId shortAddress))) with
  | (.ok (), device) => (.ok (), { device with info := { device.info with panId, shortAddress } })
  | (.error error, device) => (.error error, device)

def free (device : Device .ready) : Device .uninitialized :=
  { bus := device.bus.disable, sequence := device.sequence, info := {} }

def describe (device : Device stage) : String :=
  "DW1000 \x7b state: " ++ stage.describe ++ ", info: " ++ device.info.describe ++ ", .. \x7d"

end Device

end UwbRadio
