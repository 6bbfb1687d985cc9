import PackedRecords.Device.Error

/-! # Byte devices

A byte device holds a growing sequence of bytes. Its operations run in
`DeviceM δ`, which threads the device through and keeps it also when an operation
fails: a failure may have cost something, such as one of the calls a device is
still willing to serve.
-/

namespace PackedRecords

/-- A computation on a device `δ` that can fail; the device survives a failure. -/
abbrev DeviceM (δ : Type) := EStateM DeviceError δ

/-- A device that stores bytes at positions counted from zero. -/
class ByteDevice (δ : Type) where
  /-- The `length` bytes from `offset` on. -/
  readAt (offset length : Nat) : DeviceM δ ByteArray
  /-- As `readAt`, for a caller that already owns a buffer of that length. -/
  readInto (offset length : Nat) : DeviceM δ ByteArray := readAt offset length
  /-- Lays bytes over the contents from `offset` on, growing them if need be. -/
  writeAt (offset : Nat) (data : ByteArray) : DeviceM δ Unit
  /-- Adds bytes at the end and returns where they start. -/
  append (data : ByteArray) : DeviceM δ Nat
  /-- Adds zeros at the end. -/
  extend (additional : Nat) : DeviceM δ Unit
  /-- Keeps only the first `newSize` bytes. -/
  truncate (newSize : Nat) : DeviceM δ Unit
  /-- The number of bytes. -/
  size : DeviceM δ Nat
  /-- Hands buffered bytes to the system. -/
  flush : DeviceM δ Unit
  /-- Makes the bytes durable. -/
  sync : DeviceM δ Unit
  /-- Gives up the device's hold on what lies below it, such as a lock. -/
  release : δ → δ

/-- What a caller's buffer holds after a read into it: the bytes read, or what
it held before apart from bytes that arrived before an early end. -/
def bufferAfter (buffer : ByteArray) : Except DeviceError ByteArray → ByteArray
  | .ok bytes => bytes
  | .error (.io (.unexpectedEnd arrived)) => overwrite buffer arrived
  | .error _ => buffer
where
  overwrite (buffer arrived : ByteArray) : ByteArray :=
    arrived ++ buffer.extract arrived.size buffer.size

end PackedRecords
