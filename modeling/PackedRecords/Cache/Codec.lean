import PackedRecords.EntityId
import PackedRecords.Store.Error

/-! # Codecs of cached values

A codec turns stored payloads into values and back. Values are built and kept in line
with a baseline, which stands for configuration that is not stored with them.
-/

namespace PackedRecords

/-- How values of type `V` over baselines of type `B` are stored. -/
structure EntryCodec (V B : Type) where
  /-- The value of an entity without a record. -/
  fresh : EntityId → B → V
  /-- The value of a stored payload. -/
  decode : EntityId → ByteArray → B → Except StoreError V
  /-- The payload to store for a value. -/
  encode : V → Except StoreError ByteArray
  /-- Brings a value in line with another baseline. -/
  reconcile : EntityId → B → V → V

end PackedRecords
