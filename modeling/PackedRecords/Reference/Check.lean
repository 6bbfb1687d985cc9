import PackedRecords.Reference.PayloadMap
import PackedRecords.Store.Basic

/-! # Checking a store against a map

Operations are applied to a store and to a map of payloads side by side, and a store
is compared with a map as a whole. The first disagreement ends a check.
-/

namespace PackedRecords

/-- How a store can disagree with a map. -/
inductive Mismatch where
  /-- The store refused an operation. -/
  | refused (failure : StoreError)
  /-- The store removed a record the map does not have, or the other way round. -/
  | removal (key : EntityId)
  /-- The payload of a key differs. -/
  | payload (key : EntityId)
  /-- The numbers of records differ. -/
  | count (found expected : Nat)
  /-- The file has another size than the packed records. -/
  | fileSize (found expected : Nat)
  /-- A record does not start where the one before it ends. -/
  | gap (key : EntityId)
  /-- The index does not lead to a record that a scan finds. -/
  | offset (key : EntityId)
deriving DecidableEq

abbrev CheckM (δ : Type) := EStateM Mismatch (Store δ)

/-- An operation on the records of a store. -/
inductive RecordOperation where
  | put (key : EntityId) (payload : ByteArray)
  | remove (key : EntityId)
  | get (key : EntityId)
deriving DecidableEq, Inhabited

def RecordOperation.key : RecordOperation → EntityId
  | put key _ | remove key | get key => key

namespace CheckM

variable {δ α : Type}

/-- Runs an operation of the store, which must not fail. -/
def onStore (action : StoreM δ α) : CheckM δ α := fun store =>
  match action store with
  | .ok value store => .ok value store
  | .error failure store => .error (.refused failure) store

/-- Ends the check unless a condition holds. -/
def require (condition : Bool) (mismatch : Mismatch) : CheckM δ Unit := fun store =>
  if condition then .ok () store else .error mismatch store

end CheckM

namespace PayloadMap

open CheckM

variable {δ : Type} [ByteDevice δ]

/-- Applies an operation to the store and to the map, and returns the new map. -/
def apply (payloads : PayloadMap) : RecordOperation → CheckM δ PayloadMap
  | .put key payload => do
      onStore (Store.put key payload)
      return payloads.insert key payload
  | .remove key => do
      let removed ← onStore (Store.remove key)
      require (removed == payloads.contains key) (.removal key)
      return payloads.erase key
  | .get key => do
      let found ← onStore (Store.get key)
      require (found == payloads[key]?) (.payload key)
      return payloads

/-- Requires the store to hold some payloads. -/
def checkPayloads : List (EntityId × ByteArray) → CheckM δ Unit
  | [] => pure ()
  | (key, payload) :: rest => do
      let found ← onStore (Store.get key)
      require (found == some payload) (.payload key)
      checkPayloads rest

/-- Requires records to follow each other without gaps from `start` on, where the
index says they are. -/
def checkPacking (start : Nat) : List RecordInfo → CheckM δ Unit
  | [] => pure ()
  | info :: rest => do
      require (info.offset == start) (.gap info.key)
      let indexed ← onStore (Store.offsetOf info.key)
      require (indexed == some info.offset) (.offset info.key)
      checkPacking info.recordEnd rest

/-- Requires the store to hold exactly the payloads of the map, packed. -/
def verify (payloads : PayloadMap) : CheckM δ Unit := do
  let count ← onStore Store.length
  require (count == payloads.size) (.count count payloads.size)
  checkPayloads payloads.toList
  let fileSize ← onStore Store.fileSize
  require (fileSize == payloads.packedSize) (.fileSize fileSize payloads.packedSize)
  checkPacking 0 (← onStore Store.scan)

end PayloadMap

end PackedRecords
