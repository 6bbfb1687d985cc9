import PackedRecords.Device.Basic

/-! # Shifting the tail of a device

`shiftTail` moves every byte from some position on by a signed distance, so that
records stay packed when one of them changes its length. The bytes go through a
buffer of bounded length, chunk by chunk, and in the direction that never reads a
byte after it has been overwritten: from the top when the tail moves up, from the
bottom when it moves down.
-/

namespace PackedRecords

variable {δ : Type} [ByteDevice δ]

/-- Copies one chunk from `origin` to `destination`. -/
def copyChunk (origin destination length : Nat) : DeviceM δ Unit := do
  let bytes ← ByteDevice.readInto origin length
  ByteDevice.writeAt destination bytes

/-- Copies `remaining` bytes from `source` on up by `distance`, highest chunk first. -/
def copyUp (buffer : Nat) (positive : 0 < buffer) (source distance remaining : Nat) :
    DeviceM δ Unit :=
  if remaining = 0 then pure ()
  else do
    let chunk := min remaining buffer
    let front := source + (remaining - chunk)
    copyChunk front (front + distance) chunk
    copyUp buffer positive source distance (remaining - chunk)
termination_by remaining

/-- Copies `remaining` bytes from `source` on down by `distance`, lowest chunk first. -/
def copyDown (buffer : Nat) (positive : 0 < buffer) (source distance remaining : Nat) :
    DeviceM δ Unit :=
  if remaining = 0 then pure ()
  else do
    let chunk := min remaining buffer
    copyChunk source (source - distance) chunk
    copyDown buffer positive (source + chunk) distance (remaining - chunk)
termination_by remaining

/-- Moves the bytes from `source` to the end so that they start at `source + delta`,
and returns their number. Moving up extends the device before copying; moving down
copies first and truncates afterwards. A source past the end is refused before
anything is touched. Callers keep `0 ≤ source + delta`. -/
def shiftTail (buffer : Nat) (positive : 0 < buffer) (source : Nat) (delta : Int) :
    DeviceM δ Nat := do
  let size ← ByteDevice.size
  if size < source then
    throw (.readPastEnd source 0 size)
  let length := size - source
  match delta with
  | .ofNat 0 => pure ()
  | .ofNat distance =>
      ByteDevice.extend distance
      copyUp buffer positive source distance length
  | .negSucc below =>
      copyDown buffer positive source (below + 1) length
      ByteDevice.truncate (size - (below + 1))
  return length

end PackedRecords
