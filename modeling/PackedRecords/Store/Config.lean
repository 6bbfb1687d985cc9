import PackedRecords.Record.Header

/-! # Store configuration

The settings a store is opened with, kept as they were given. The limits that the
store works with are derived: payloads never exceed `maxPayloadSize`, and the
buffer of a shift holds at least one byte.
-/

namespace PackedRecords

/-- How a record file is opened and worked on. -/
structure Config where
  createIfMissing : Bool := true
  createParents : Bool := false
  lockFile : Bool := true
  syncOnWrite : Bool := false
  shiftBufferSize : Nat := 1024
  maxPayloadSize : Nat := PackedRecords.maxPayloadSize
deriving DecidableEq, Repr, Inhabited

namespace Config

/-- The longest payload the store accepts and expects to find. -/
def payloadLimit (config : Config) : Nat :=
  min config.maxPayloadSize PackedRecords.maxPayloadSize

def shiftBufferLength (config : Config) : Nat :=
  max config.shiftBufferSize 1

theorem payloadLimit_le (config : Config) :
    config.payloadLimit ≤ PackedRecords.maxPayloadSize :=
  Nat.min_le_right ..

theorem shiftBufferLength_pos (config : Config) : 0 < config.shiftBufferLength :=
  Nat.lt_of_lt_of_le Nat.zero_lt_one (Nat.le_max_right ..)

end Config

end PackedRecords
