import PackedRecords.EntityId
import PackedRecords.Record.Image

/-! # Maps of payloads

What a record store means to its users, without a file: a payload for some keys.
-/

namespace PackedRecords

abbrev PayloadMap := Std.ExtTreeMap EntityId ByteArray compare

namespace PayloadMap

/-- Takes over the entries of another map, which win where both have one. -/
def absorb (payloads other : PayloadMap) : PayloadMap :=
  other.foldl (fun payloads key payload => payloads.insert key payload) payloads

/-- The map of some records; of several records of one key the last one counts. -/
def ofRecords (records : List Record) : PayloadMap :=
  records.foldl (fun payloads record => payloads.insert record.key record.payload) ∅

def packedSize (payloads : PayloadMap) : Nat :=
  payloads.foldl (fun size _ payload => size + (headerSize + payload.size)) 0

end PayloadMap

end PackedRecords
