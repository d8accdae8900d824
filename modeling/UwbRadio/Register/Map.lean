import UwbRadio.Bytes

/-!
The registers of the device that this library uses, with the width of an access
and the accesses that make sense.
-/

namespace UwbRadio

inductive Permission
  | readOnly
  | writeOnly
  | readWrite
  deriving DecidableEq

namespace Permission

def canRead : Permission → Bool
  | .writeOnly => false
  | _ => true

def canWrite : Permission → Bool
  | .readOnly => false
  | _ => true

end Permission

/-- A register, or the part of one that is accessed: `width` bytes from `subAddress` on. -/
structure Register where
  name : String
  index : UInt8
  subAddress : UInt16
  width : Nat
  permission : Permission
  deriving DecidableEq

namespace Register

def deviceId : Register := ⟨"DEV_ID", 0x00, 0x00, 4, .readOnly⟩
def panAddress : Register := ⟨"PANADR", 0x03, 0x00, 4, .readWrite⟩
def systemConfig : Register := ⟨"SYS_CFG", 0x04, 0x00, 4, .readWrite⟩
def systemTime : Register := ⟨"SYS_TIME", 0x06, 0x00, 5, .readOnly⟩
def transmitControl : Register := ⟨"TX_FCTRL", 0x08, 0x00, 4, .readWrite⟩
def transmitBuffer : Register := ⟨"TX_BUFFER", 0x09, 0x00, 1024, .writeOnly⟩
def receiveTimeout : Register := ⟨"RX_FWTO", 0x0c, 0x00, 2, .readWrite⟩
def systemControl : Register := ⟨"SYS_CTRL", 0x0d, 0x00, 4, .readWrite⟩
def systemMask : Register := ⟨"SYS_MASK", 0x0e, 0x00, 4, .readWrite⟩
def systemStatus : Register := ⟨"SYS_STATUS", 0x0f, 0x00, 4, .readWrite⟩
def receiveInfo : Register := ⟨"RX_FINFO", 0x10, 0x00, 4, .readOnly⟩
def receiveBuffer : Register := ⟨"RX_BUFFER", 0x11, 0x00, 1024, .readOnly⟩
def wakeConfig : Register := ⟨"AON_WCFG", 0x2c, 0x00, 2, .readWrite⟩
def alwaysOnControl : Register := ⟨"AON_CTRL", 0x2c, 0x02, 1, .readWrite⟩
def alwaysOnConfig : Register := ⟨"AON_CFG0", 0x2c, 0x06, 1, .readWrite⟩
def clockControl : Register := ⟨"PMSC_CTRL0", 0x36, 0x00, 1, .readWrite⟩
def softReset : Register := ⟨"PMSC_SOFTRESET", 0x36, 0x03, 1, .readWrite⟩
def sequencerControl : Register := ⟨"PMSC_CTRL1", 0x36, 0x04, 2, .readWrite⟩

def all : List Register :=
  [deviceId, panAddress, systemConfig, systemTime, transmitControl, transmitBuffer,
    receiveTimeout, systemControl, systemMask, systemStatus, receiveInfo, receiveBuffer,
    wakeConfig, alwaysOnControl, alwaysOnConfig, clockControl, softReset, sequencerControl]

def named? (name : String) : Option Register :=
  all.find? fun register => register.name == name

end Register

end UwbRadio
