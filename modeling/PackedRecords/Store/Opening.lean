import PackedRecords.Store.Basic

/-! # Opening a store

Opening walks over the whole device once and notes where each key's record starts.
The first bytes that are not a record end the walk with an error; of several records
of one key the last one counts.
-/

namespace PackedRecords

namespace Store

variable {δ : Type} [ByteDevice δ]

/-- A step of the walk: device failures become the store's. -/
abbrev OpeningM (δ : Type) := EStateM StoreError δ

def OpeningM.onDevice {α : Type} (action : DeviceM δ α) : OpeningM δ α := fun device =>
  match action device with
  | .ok value device => .ok value device
  | .error failure device => .error (.device failure) device

/-- The key and the payload length of the record at `offset`, which must lie
entirely below `size`. -/
def readRecord (limit size offset : Nat) : OpeningM δ (EntityId × Nat) := do
  if size < offset + headerSize then
    throw (.corruptRecord offset (.truncatedHeader (size - offset)))
  let header := Header.decode
    (← OpeningM.onDevice (ByteDevice.readInto offset headerSize))
  match header.validate limit with
  | .error fault => throw (.corruptRecord offset fault)
  | .ok length =>
      let recordEnd := offset + headerSize + length
      if size < recordEnd then
        throw (.corruptRecord offset (.payloadPastEnd recordEnd size))
      return (header.key, length)

/-- Notes the records from `offset` to `size` in the index. -/
def indexRecords (limit size offset : Nat) (index : Index) : OpeningM δ Index :=
  if size ≤ offset then pure index
  else do
    let (key, length) ← readRecord limit size offset
    indexRecords limit size (offset + headerSize + length) (index.insert key offset)
termination_by size - offset
decreasing_by
  have := headerSize_pos
  omega

def buildIndex (limit : Nat) : OpeningM δ Index := do
  let size ← OpeningM.onDevice ByteDevice.size
  indexRecords limit size 0 ∅

/-- Opens a store over a device. A device that holds no sequence of records is
released again and handed back with the reason. -/
def openDevice (config : Config) (device : δ) : Except (StoreError × δ) (Store δ) :=
  match buildIndex config.payloadLimit device with
  | .ok index device => .ok ⟨device, index, config, {}, true⟩
  | .error failure device => .error (failure, ByteDevice.release device)

end Store

end PackedRecords
