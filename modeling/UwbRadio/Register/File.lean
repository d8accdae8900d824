import UwbRadio.Register.Map

/-!
The contents of the device's registers. Every register is a block of bytes that
reads as zero where nothing was stored, so that `byte` is total.
-/

namespace UwbRadio

structure RegisterFile where
  blocks : List (UInt8 × Bytes) := []

namespace RegisterFile

def block (file : RegisterFile) (index : UInt8) : Bytes :=
  (file.blocks.lookup index).getD []

def byte (file : RegisterFile) (index : UInt8) (address : Nat) : UInt8 :=
  (file.block index).getD address 0

def withBlock (file : RegisterFile) (index : UInt8) (bytes : Bytes) : RegisterFile :=
  { blocks := (index, bytes) :: file.blocks.filter fun entry => entry.1 != index }

def padded (bytes : Bytes) (length : Nat) : Bytes :=
  bytes ++ List.replicate (length - bytes.length) 0

def read (file : RegisterFile) (index : UInt8) (address length : Nat) : Bytes :=
  padded (((file.block index).drop address).take length) length

def store (file : RegisterFile) (index : UInt8) (address : Nat) (data : Bytes) : RegisterFile :=
  file.withBlock index (Bytes.overwrite (padded (file.block index) address) address data)

/-- A write over the bus. In the event status it clears the bits it has set. -/
def write (file : RegisterFile) (index : UInt8) (address : Nat) (data : Bytes) : RegisterFile :=
  if index = Register.systemStatus.index then
    let old := file.read index address data.length
    file.store index address (List.zipWith (fun current clear => current &&& ~~~clear) old data)
  else
    file.store index address data

def raise (file : RegisterFile) (events : UInt64) : RegisterFile :=
  let index := Register.systemStatus.index
  let old := Bytes.fromLittleEndian (file.read index 0 8)
  file.store index 0 (Bytes.littleEndian 8 (old ||| events.toNat))

def checkLength : Nat := 2

def receive (file : RegisterFile) (frame : Bytes) : RegisterFile :=
  let stored := file.store Register.receiveBuffer.index 0 frame
  stored.store Register.receiveInfo.index 0
    (Bytes.littleEndian 4 (frame.length + checkLength))

def powerUp : RegisterFile :=
  ({} : RegisterFile).store Register.deviceId.index 0 [0x30, 0x01, 0xca, 0xde]

theorem block_withBlock (file : RegisterFile) (index : UInt8) (bytes : Bytes) :
    (file.withBlock index bytes).block index = bytes := by
  simp [block, withBlock]

private theorem lookup_filter_other (entries : List (UInt8 × Bytes)) {index other : UInt8}
    (different : other ≠ index) :
    (entries.filter fun entry => entry.1 != index).lookup other = entries.lookup other := by
  induction entries with
  | nil => rfl
  | cons entry rest ih =>
      obtain ⟨key, bytes⟩ := entry
      by_cases removed : key = index
      · subst removed
        have missed : (other == key) = false := by simpa using different
        simp [List.lookup_cons, missed, ih]
      · by_cases found : other = key
        · subst found
          simp [removed]
        · have missed : (other == key) = false := by simpa using found
          simp [List.lookup_cons, removed, missed, ih]

theorem block_withBlock_other (file : RegisterFile) {index other : UInt8} (bytes : Bytes)
    (different : other ≠ index) :
    (file.withBlock index bytes).block other = file.block other := by
  have missed : (other == index) = false := by simpa using different
  simp [block, withBlock, List.lookup_cons, missed, lookup_filter_other _ different]

end RegisterFile

end UwbRadio
