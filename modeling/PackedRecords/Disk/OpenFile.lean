import PackedRecords.Device.Basic
import PackedRecords.Disk.Basic

/-! # Open files

An open file remembers the size it knows of: the size found when it was opened and
its own changes since. Bounds are checked against that size, so changes made from
outside show only in the bytes themselves. An operation on no bytes asks nothing of
the disk.
-/

namespace PackedRecords

/-- A file that is open for reading and writing. -/
structure FileHandle where
  path : Path
  number : Nat
  size : Nat
  locked : Bool
deriving DecidableEq, Inhabited

/-- How a file is opened. -/
structure OpenMode where
  create : Bool
  lock : Bool
deriving DecidableEq, Inhabited

abbrev FileM := EStateM DeviceError Disk

namespace FileHandle

def onDisk {α : Type} (action : DiskM α) : FileM α := fun disk =>
  match action disk with
  | .ok value disk => .ok value disk
  | .error reason disk => .error (.io (.system reason)) disk

/-- Takes the lock on a file, which nobody may hold. -/
def takeLock (number : Nat) : FileM Unit := fun disk =>
  if disk.isLocked number then .error .locked disk
  else .ok () (disk.lock number)

def openPath (path : Path) (mode : OpenMode) : FileM FileHandle := do
  let number ← onDisk (Disk.openFile path mode.create)
  if mode.lock then
    takeLock number
  let disk ← get
  return ⟨path, number, (disk.contents number).size, mode.lock⟩

/-- Opens the file at a path and creates it and its parents if they are missing. -/
def openWithParents (path : Path) : FileM FileHandle := do
  onDisk (Disk.ensureParents path)
  openPath path ⟨true, false⟩

def release (handle : FileHandle) (disk : Disk) : Disk :=
  if handle.locked then disk.unlock handle.number else disk

end FileHandle

/-- An open file together with the disk it is on. -/
structure OpenFile where
  disk : Disk
  handle : FileHandle
deriving Inhabited

namespace OpenFile

def contents (file : OpenFile) : SparseBytes :=
  file.disk.contents file.handle.number

def change (known : Nat) (update : SparseBytes → SparseBytes) : DeviceM OpenFile Unit :=
  fun ⟨disk, handle⟩ =>
    .ok () ⟨disk.modify handle.number update, { handle with size := known }⟩

/-- The `length` bytes from `offset` on, which must lie within the known size. The
file itself may have become shorter than that. -/
def read (offset length : Nat) : DeviceM OpenFile ByteArray := fun file =>
  if file.handle.size < offset + length then
    .error (.readPastEnd offset length file.handle.size) file
  else if length = 0 then .ok ByteArray.empty file
  else
    let bytes := file.contents
    let found := (bytes.extract offset (offset + length)).toByteArray
    if offset + length ≤ bytes.size then .ok found file
    else .error (.io (.unexpectedEnd found)) file

/-- As `read`, for a caller without a buffer: what has arrived before an early end is lost. -/
def readAt (offset length : Nat) : DeviceM OpenFile ByteArray := fun file =>
  match read offset length file with
  | .error (.io (.unexpectedEnd _)) file =>
      .error (.io (.unexpectedEnd ByteArray.empty)) file
  | outcome => outcome

/-- Lays bytes over the file, filling up with zeros first if it has become shorter
than `offset`. -/
def lay (offset : Nat) (data : ByteArray) (bytes : SparseBytes) : SparseBytes :=
  if bytes.size < offset then (bytes.resize offset).overwrite offset data
  else bytes.overwrite offset data

def writeAt (offset : Nat) (data : ByteArray) : DeviceM OpenFile Unit := fun file =>
  if file.handle.size < offset then
    .error (.writePastEnd offset file.handle.size) file
  else if data.size = 0 then .ok () file
  else
    let known := max file.handle.size (offset + data.size)
    change known (lay offset data) file

def append (data : ByteArray) : DeviceM OpenFile Nat := fun file =>
  let offset := file.handle.size
  if data.size = 0 then .ok offset file
  else
    match change (offset + data.size) (lay offset data) file with
    | .ok _ file => .ok offset file
    | .error failure file => .error failure file

/-- The system counts the bytes of a file with a signed number of 64 bits. -/
def sizeLimit : Nat := 0x7fffffffffffffff

/-- Adds zeros to the known size, as far as a file can grow. -/
def extend (additional : Nat) : DeviceM OpenFile Unit := fun file =>
  let known := file.handle.size + additional
  if additional = 0 then .ok () file
  else if sizeLimit < known then .error (.io (.system .sizeOutOfRange)) file
  else change known (·.resize known) file

def truncate (newSize : Nat) : DeviceM OpenFile Unit := fun file =>
  if file.handle.size < newSize then
    .error (.invalidTruncate newSize file.handle.size) file
  else change newSize (·.resize newSize) file

def size : DeviceM OpenFile Nat := fun file =>
  .ok file.handle.size file

def release (file : OpenFile) : OpenFile :=
  { file with disk := file.handle.release file.disk }

instance : ByteDevice OpenFile where
  readAt := readAt
  readInto := read
  writeAt := writeAt
  append := append
  extend := extend
  truncate := truncate
  size := size
  flush := pure ()
  sync := pure ()
  release := release

end OpenFile

end PackedRecords
