import UwbRadio.Error
import UwbRadio.Frame.Control

/-!
Link frames: a data frame of IEEE 802.15.4 with short addresses in one PAN, then
the link tag, then the payload. The device appends the check sequence itself, so
the bytes here end before it.

`encodeFrame` writes a frame over the start of a buffer and `decodeFrame?` reads
one. Decoding accepts every valid data frame that carries the tag, whatever its
addressing.
-/

namespace UwbRadio

def linkTag : Bytes := [0x4c, 0x57, 0x49, 0x50]

def maxFrameLength : Nat := 127

def checkSequenceLength : Nat := 2

def frameHeaderLength : Nat := 9

def broadcastAddress : UInt16 := 0xffff

structure LinkHeader where
  sequence : UInt8
  panId : UInt16
  source : UInt16
  destination : Option UInt16
  deriving DecidableEq

structure LinkFrame where
  sequence : UInt8
  source : Option UInt16
  payload : Bytes
  deriving DecidableEq

def LinkFrame.describe (frame : LinkFrame) : String :=
  let source := match frame.source with
    | none => "None"
    | some address => "Some(" ++ toString address.toNat ++ ")"
  let payload := frame.payload.map fun byte => toString byte.toNat
  "LinkFrame \x7b sequence: Some(" ++ toString frame.sequence.toNat ++ "), source: " ++ source ++
    ", payload: [" ++ String.intercalate ", " payload ++ "] \x7d"

def linkFrameControl : UInt16 := 0x9841

/-- The bits of the frame control that encoding leaves as the buffer had them:
security, pending, acknowledgement and the reserved ones. -/
def untouchedControl : UInt16 := 0x03b8

def LinkHeader.control (before : Bytes) : UInt16 :=
  (UInt16.ofNat (Bytes.fromLittleEndian (before.take 2)) &&& untouchedControl) ||| linkFrameControl

def LinkHeader.bytes (header : LinkHeader) (before : Bytes) : Bytes :=
  Bytes.littleEndian 2 (LinkHeader.control before).toNat ++
    [header.sequence] ++
    Bytes.littleEndian 2 header.panId.toNat ++
    Bytes.littleEndian 2 (header.destination.getD broadcastAddress).toNat ++
    Bytes.littleEndian 2 header.source.toNat

def frameLength (payload : Bytes) : Nat :=
  frameHeaderLength + linkTag.length + payload.length

/-- Write a frame over the start of `buffer`; the length of the frame and the
buffer afterwards. A frame too long for the buffer or for the air is refused. -/
def encodeFrame {fault : Type} (buffer : Bytes) (header : LinkHeader) (payload : Bytes) :
    Except (Error fault) (Nat × Bytes) :=
  let length := frameLength payload
  if length + checkSequenceLength > maxFrameLength ∨ length > buffer.length then
    .error (.bufferTooSmall (length + checkSequenceLength))
  else
    .ok (length, Bytes.overwrite buffer 0 (header.bytes buffer ++ linkTag ++ payload))

def addressingOffset : Nat := 3

def securityLength? (control : FrameControl) (bytes : Bytes) (offset : Nat) : Option Nat :=
  if control.securityEnabled then do
    let first ← bytes[offset]?
    let size := FrameControl.securityHeaderSize first
    guard (offset + size ≤ bytes.length)
    return size
  else
    some 0

def frameBody? (bytes : Bytes) : Option (FrameControl × Bytes) := do
  guard (addressingOffset ≤ bytes.length ∧ bytes.length ≤ maxFrameLength)
  let control : FrameControl := ⟨Bytes.fromLittleEndian (bytes.take 2)⟩
  let fieldsEnd := addressingOffset + control.addressing.size
  guard (fieldsEnd ≤ bytes.length)
  let security ← securityLength? control bytes fieldsEnd
  guard control.valid
  guard (control.frameType = FrameControl.dataFrame)
  return (control, bytes.drop (fieldsEnd + security))

def frameSource? (control : FrameControl) (bytes : Bytes) : Option UInt16 :=
  match control.sourceMode with
  | .short =>
      let fields := control.addressing
      let offset := addressingOffset + fields.destinationPan + fields.destination + fields.sourcePan
      some (UInt16.ofNat (Bytes.fromLittleEndian ((bytes.drop offset).take fields.source)))
  | _ => none

def decodeFrame? (bytes : Bytes) : Option LinkFrame := do
  let (control, body) ← frameBody? bytes
  guard (body.take linkTag.length = linkTag)
  return {
    sequence := bytes.getD 2 0
    source := frameSource? control bytes
    payload := body.drop linkTag.length }

end UwbRadio
