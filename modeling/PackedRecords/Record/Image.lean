import PackedRecords.Record.Header

/-! # Images of records

The contents of a record file: records one after another without gaps.
-/

namespace PackedRecords

/-- A payload under its key. -/
structure Record where
  key : EntityId
  payload : ByteArray
deriving DecidableEq, Inhabited

namespace Record

def header (record : Record) : Header :=
  ⟨record.key, UInt32.ofNat record.payload.size⟩

def encode (record : Record) : ByteArray :=
  record.header.encode ++ record.payload

def size (record : Record) : Nat :=
  headerSize + record.payload.size

@[simp] theorem size_encode (record : Record) : record.encode.size = record.size := by
  simp [encode, size]

end Record

/-- The bytes of records one after another. -/
def image (records : List Record) : ByteArray :=
  records.foldl (fun bytes record => bytes ++ record.encode) ByteArray.empty

/-- Where a record found in a file starts and how long its payload is. -/
structure RecordInfo where
  key : EntityId
  offset : Nat
  length : UInt32
deriving DecidableEq, Inhabited

/-- The position just past the record. -/
def RecordInfo.recordEnd (info : RecordInfo) : Nat :=
  info.offset + headerSize + info.length.toNat

end PackedRecords
