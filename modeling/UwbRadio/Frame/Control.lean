import UwbRadio.Bytes

/-!
The frame control field of an IEEE 802.15.4 frame and what it says about the
addressing fields that follow the sequence number.
-/

namespace UwbRadio

inductive AddressMode
  | absent
  | reserved
  | short
  | extended
  deriving DecidableEq

namespace AddressMode

def ofBits : Nat → AddressMode
  | 0 => .absent
  | 1 => .reserved
  | 2 => .short
  | _ => .extended

def size : AddressMode → Nat
  | .absent => 0
  | .reserved => 0
  | .short => 2
  | .extended => 8

end AddressMode

structure Addressing where
  destinationPan : Nat
  destination : Nat
  sourcePan : Nat
  source : Nat
  deriving DecidableEq

def Addressing.size (addressing : Addressing) : Nat :=
  addressing.destinationPan + addressing.destination + addressing.sourcePan + addressing.source

structure FrameControl where
  value : Nat
  deriving DecidableEq

namespace FrameControl

def frameType (control : FrameControl) : Nat := control.value % 8

def securityEnabled (control : FrameControl) : Bool := control.value.testBit 3
def panCompression (control : FrameControl) : Bool := control.value.testBit 6

def destinationMode (control : FrameControl) : AddressMode :=
  .ofBits (control.value >>> 10 % 4)

def version (control : FrameControl) : Nat := control.value >>> 12 % 4

def sourceMode (control : FrameControl) : AddressMode :=
  .ofBits (control.value >>> 14 % 4)

def dataFrame : Nat := 1

def panSize : Nat := 2

/-- Which PAN identifiers are sent, destination first. The two older versions
leave the source PAN out where the destination PAN speaks for both; version 2
has rules of its own. -/
def pans (control : FrameControl) : Bool × Bool :=
  let compressed := control.panCompression
  match control.version, control.destinationMode, control.sourceMode with
  | 0, .absent, _ | 1, .absent, _ => (false, true)
  | 0, _, .absent | 1, _, .absent => (true, false)
  | 0, _, _ | 1, _, _ => (true, !compressed)
  | 2, .absent, .absent => (compressed, false)
  | 2, _, .absent => (!compressed, false)
  | 2, .absent, _ => (false, true)
  | 2, .extended, .extended => (!compressed, false)
  | 2, _, _ => (true, !compressed)
  | _, _, _ => (false, false)

def addressing (control : FrameControl) : Addressing :=
  if control.version = 3 then
    ⟨0, 0, 0, 0⟩
  else
    let (destinationPan, sourcePan) := control.pans
    ⟨if destinationPan then panSize else 0, control.destinationMode.size,
      if sourcePan then panSize else 0, control.sourceMode.size⟩

def valid (control : FrameControl) : Bool :=
  control.version != 3 &&
    control.destinationMode != .reserved &&
    control.sourceMode != .reserved &&
    !(control.version ≤ 1 && control.panCompression &&
      control.destinationMode == .absent && control.sourceMode == .absent)

/-- The size of the security header that starts with `first`: its own byte, a frame
counter unless bit 5 suppresses it, and a key identifier by bits 3 and 4. -/
def securityHeaderSize (first : UInt8) : Nat :=
  let counter := if first.toNat.testBit 5 then 0 else 4
  let keyIdentifier := match first.toNat / 8 % 4 with
    | 0 => 0
    | 1 => 1
    | 2 => 5
    | _ => 9
  1 + counter + keyIdentifier

end FrameControl

end UwbRadio
