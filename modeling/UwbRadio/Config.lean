import UwbRadio.Bytes

/-!
Settings of the device, of the transaction engine and of the ranging schedule,
with the values that hold if nothing else is said. The setup of the radio itself
(channel, preamble, data rate) is an opaque list of register writes.
-/

namespace UwbRadio

structure RegisterWrite where
  index : UInt8
  subAddress : UInt16
  value : UInt64
  width : Nat
  deriving DecidableEq

structure DeviceConfig where
  panId : UInt16 := 0xdeca
  shortAddress : UInt16 := 0x0000
  startupSpeed : UInt32 := 2000000
  operatingSpeed : UInt32 := 8000000
  setup : List RegisterWrite := []
  deriving DecidableEq

structure LinkConfig where
  /-- How long the receiver waits for the answer to a ping, in its own
  microseconds; zero is for ever. -/
  responseTimeout : UInt16 := 0xffff
  requestTimeout : Nat := 500
  deriving DecidableEq

structure RangingConfig where
  firstDelay : Nat := 10
  period : Nat := 31
  requestTimeout : Nat := 10000
  responseTimeout : UInt16 := 0xffff
  postprocess : Bool := true
  deriving DecidableEq

end UwbRadio
