import PackedRecords.Device.Basic
import PackedRecords.Record.Image
import PackedRecords.Store.Config
import PackedRecords.Store.Error
import PackedRecords.Store.Index
import PackedRecords.Store.Stats
import PackedRecords.Store.TailShift

/-! # Record stores

A store keeps one payload per key in a device of packed records, and the place of
each record in an index. A new key is added at the end; a payload of the same length
is replaced where it stands; a payload of another length, or none, moves the tail of
the device by the difference.

Operations run in `StoreM δ`. They keep the store also when they fail, with whatever
had been done by then.
-/

namespace PackedRecords

/-- A record store on a device `δ`. A closed store keeps its counters and lets no
operation reach the device. -/
structure Store (δ : Type) where
  device : δ
  index : Index
  config : Config
  stats : Stats
  isOpen : Bool

/-- A computation on a store that can fail; the store survives a failure. -/
abbrev StoreM (δ : Type) := EStateM StoreError (Store δ)

namespace Store

variable {δ α : Type}

def onDevice (action : DeviceM δ α) : StoreM δ α :=
  fun ⟨device, index, config, stats, isOpen⟩ =>
    match action device with
    | .ok value device => .ok value ⟨device, index, config, stats, isOpen⟩
    | .error failure device =>
        .error (.device failure) ⟨device, index, config, stats, isOpen⟩

def view (read : Store δ → α) : StoreM δ α := fun store =>
  .ok (read store) store

def count (update : Stats → Stats) : StoreM δ Unit := fun store =>
  .ok () { store with stats := update store.stats }

def reindex (update : Index → Index) : StoreM δ Unit := fun store =>
  .ok () { store with index := update store.index }

def requireOpen : StoreM δ Unit := fun store =>
  if store.isOpen then .ok () store else .error .closed store

def offset? (key : EntityId) : StoreM δ (Option Nat) :=
  view fun store => store.index[key]?

/-- Reports a length that cannot belong to a record at `offset`. -/
def expectLength (offset : Nat) : Except Corruption Nat → StoreM δ Nat
  | .ok length => pure length
  | .error fault => throw (.corruptRecord offset fault)

variable [ByteDevice δ]

/-- The length field of the record at `offset`. -/
def readLength (offset : Nat) : StoreM δ UInt32 := do
  let bytes ← onDevice (ByteDevice.readInto (offset + keySize) lengthSize)
  return readBigEndian32 bytes 0

/-- The length of the record at `offset`, which must be acceptable. -/
def readValidLength (offset : Nat) : StoreM δ Nat := do
  let length ← readLength offset
  let limit ← view (·.config.payloadLimit)
  expectLength offset (validateLength length limit)

/-- Moves the bytes from `source` on, and the index entries there along with them. -/
def shiftAfter (source : Nat) (delta : Int) : StoreM δ Nat := do
  let config ← view (·.config)
  let moved ← onDevice
    (shiftTail config.shiftBufferLength config.shiftBufferLength_pos source delta)
  reindex (·.shiftFrom source delta)
  return moved

/-- Makes a finished write durable if the store is configured for that. -/
def syncIfConfigured : StoreM δ Unit := do
  if ← view (·.config.syncOnWrite) then
    onDevice ByteDevice.sync

/-- The payload of a key, if it has a record. -/
def get (key : EntityId) : StoreM δ (Option ByteArray) := do
  count Stats.countLookup
  requireOpen
  match ← offset? key with
  | none => return none
  | some offset =>
      let length ← readLength offset
      let payload ← onDevice (ByteDevice.readAt (offset + headerSize) length.toNat)
      count (Stats.countRead length.toNat)
      return some payload

def append (key : EntityId) (payload : ByteArray) : StoreM δ Unit := do
  let offset ← onDevice ByteDevice.size
  let header : Header := ⟨key, UInt32.ofNat payload.size⟩
  onDevice (ByteDevice.writeAt offset header.encode)
  onDevice (ByteDevice.writeAt (offset + headerSize) payload)
  reindex (·.insert key offset)
  count (Stats.countAppend (headerSize + payload.size))

/-- Replaces the payload of the record at `offset`. -/
def update (offset : Nat) (payload : ByteArray) : StoreM δ Unit := do
  let length ← readValidLength offset
  if length = payload.size then
    onDevice (ByteDevice.writeAt (offset + headerSize) payload)
    count (Stats.countInPlaceUpdate payload.size)
  else
    let moved ← shiftAfter (offset + headerSize + length) (payload.size - length : Int)
    count (Stats.countShift moved)
    onDevice (ByteDevice.writeAt (offset + keySize)
      (bigEndian32 (UInt32.ofNat payload.size)))
    onDevice (ByteDevice.writeAt (offset + headerSize) payload)
    count (Stats.countShiftedUpdate (headerSize + payload.size))

/-- Stores a payload under a key in place of an earlier one. A payload over the limit
is refused before anything else is looked at. -/
def put (key : EntityId) (payload : ByteArray) : StoreM δ Unit := do
  let limit ← view (·.config.payloadLimit)
  if limit < payload.size then
    throw (.payloadTooLarge payload.size limit)
  requireOpen
  match ← offset? key with
  | none => append key payload
  | some offset => update offset payload
  syncIfConfigured

def remove (key : EntityId) : StoreM δ Bool := do
  requireOpen
  match ← offset? key with
  | none => return false
  | some offset =>
      reindex (·.erase key)
      let length ← readValidLength offset
      let recordSize := headerSize + length
      let moved ← shiftAfter (offset + recordSize) (-(recordSize : Int))
      syncIfConfigured
      count (Stats.countShift moved)
      count Stats.countRemove
      return true

def contains (key : EntityId) : StoreM δ Bool := do
  requireOpen
  view (·.index.contains key)

/-- The offset of a key's record, if it has one. -/
def offsetOf (key : EntityId) : StoreM δ (Option Nat) := do
  requireOpen
  offset? key

def length : StoreM δ Nat := do
  requireOpen
  view (·.index.size)

def isEmpty : StoreM δ Bool := do
  return (← length) == 0

/-- The keys that have a record, in their order. -/
def keys : StoreM δ (List EntityId) := do
  requireOpen
  view (·.index.keys)

def fileSize : StoreM δ Nat := do
  requireOpen
  onDevice ByteDevice.size

def recordInfo (entry : EntityId × Nat) : StoreM δ RecordInfo := do
  return ⟨entry.1, entry.2, ← readLength entry.2⟩

def scan : StoreM δ (List RecordInfo) := do
  requireOpen
  let entries ← view (·.index.byOffset)
  entries.mapM recordInfo

def flush : StoreM δ Unit := do
  requireOpen
  onDevice ByteDevice.flush

def sync : StoreM δ Unit := do
  requireOpen
  onDevice ByteDevice.sync

/-- Gives up the device after a last flush, whose failure is reported but changes
nothing else. A closed store is left alone. -/
def close : StoreM δ Unit :=
  fun ⟨device, index, config, stats, isOpen⟩ =>
    if isOpen then
      match ByteDevice.flush device with
      | .ok _ device =>
          .ok () ⟨ByteDevice.release device, index, config, stats, false⟩
      | .error failure device =>
          .error (.device failure)
            ⟨ByteDevice.release device, index, config, stats, false⟩
    else
      .ok () ⟨device, index, config, stats, false⟩

/-- The device that is left when the store goes out of use. -/
def dropped (store : Store δ) : δ :=
  match close store with
  | .ok _ closed => closed.device
  | .error _ closed => closed.device

end Store

end PackedRecords
