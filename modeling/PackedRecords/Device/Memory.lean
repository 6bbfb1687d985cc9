import PackedRecords.Bytes
import PackedRecords.Device.Basic

/-! # Bytes in memory

The plain byte device: a read must end within the bytes, a write must start within
them or at their end, and truncation cannot grow them. A refused operation changes
nothing.
-/

namespace PackedRecords

/-- A byte device held in memory. -/
structure Memory where
  bytes : ByteArray
deriving DecidableEq, Inhabited

namespace Memory

/-- The `length` bytes from `offset` on, which must all be there. -/
def read (offset length : Nat) : DeviceM Memory ByteArray := fun memory =>
  let size := memory.bytes.size
  if offset + length ≤ size then
    .ok (memory.bytes.extract offset (offset + length)) memory
  else
    .error (.readPastEnd offset length size) memory

/-- Lays bytes over the contents from a position within them or at their end. -/
def writeAt (offset : Nat) (data : ByteArray) : DeviceM Memory Unit := fun ⟨bytes⟩ =>
  if offset ≤ bytes.size then .ok () ⟨overwrite bytes offset data⟩
  else .error (.writePastEnd offset bytes.size) ⟨bytes⟩

def append (data : ByteArray) : DeviceM Memory Nat := fun ⟨bytes⟩ =>
  let offset := bytes.size
  .ok offset ⟨overwrite bytes offset data⟩

def extend (additional : Nat) : DeviceM Memory Unit := fun ⟨bytes⟩ =>
  .ok () ⟨resize bytes (bytes.size + additional)⟩

def truncate (newSize : Nat) : DeviceM Memory Unit := fun ⟨bytes⟩ =>
  if newSize ≤ bytes.size then .ok () ⟨resize bytes newSize⟩
  else .error (.invalidTruncate newSize bytes.size) ⟨bytes⟩

def size : DeviceM Memory Nat := fun memory =>
  .ok memory.bytes.size memory

instance : ByteDevice Memory where
  readAt := read
  readInto := read
  writeAt := writeAt
  append := append
  extend := extend
  truncate := truncate
  size := size
  flush := pure ()
  sync := pure ()
  release := id

end Memory

end PackedRecords
