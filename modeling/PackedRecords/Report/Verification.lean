import PackedRecords.Device.Basic
import PackedRecords.EntityId.Text
import PackedRecords.Store.Error
import PackedRecords.Store.Index

/-! # Verification of a record file

A walk over the records of a device that keeps going where opening a store would not
care: a key that occurs again is a fault here, but the walk goes on behind it. Bytes
that are not a record end the walk.

The walk shares the reading of a single header with the store and nothing else.
-/

namespace PackedRecords

/-- Something wrong with a record file. -/
inductive RecordFault where
  | truncatedHeader (offset trailing : Nat)
  | unacceptableLength (offset : Nat) (fault : Corruption)
  | truncatedRecord (offset needed available : Nat)
  | duplicateKey (key : EntityId) (previous offset : Nat)
  | uncovered (covered size : Nat)
deriving DecidableEq, Inhabited

namespace RecordFault

def message : RecordFault → String
  | truncatedHeader offset trailing =>
      "Truncated header at offset " ++ toString offset ++ ": " ++ toString trailing ++
        " trailing bytes"
  | unacceptableLength offset fault => (StoreError.corruptRecord offset fault).message
  | truncatedRecord offset needed available =>
      "Truncated record at offset " ++ toString offset ++ ": needs " ++
        toString needed ++ " bytes, only " ++ toString available ++ " available"
  | duplicateKey key previous offset =>
      "Duplicate key " ++ key.toText ++ " at offsets " ++ toString previous ++ " and " ++
        toString offset
  | uncovered covered size =>
      "Records cover " ++ toString covered ++ " bytes but file is " ++ toString size ++
        " bytes"

end RecordFault

/-- What a walk over a record file has found. -/
structure Verification where
  /-- The number of records looked at, the one that ended the walk included. -/
  checked : Nat
  /-- The number of different keys. -/
  valid : Nat
  /-- The number of records whose key had occurred before. -/
  duplicates : Nat
  /-- The position just past the last whole record. -/
  covered : Nat
  size : Nat
  faults : Array RecordFault
deriving DecidableEq, Inhabited

namespace Verification

def passed (found : Verification) : Bool :=
  found.faults.isEmpty

/-- Before the first record of a file. -/
def start (size : Nat) : Verification :=
  ⟨0, 0, 0, 0, size, #[]⟩

def check (found : Verification) : Verification :=
  { found with checked := found.checked + 1 }

def report (fault : RecordFault) (found : Verification) : Verification :=
  { found with faults := found.faults.push fault }

def cover (recordEnd : Nat) (found : Verification) : Verification :=
  { found with covered := recordEnd }

/-- Notes the key of a record, given where that key has occurred last. -/
def countKey (key : EntityId) (previous? : Option Nat) (offset : Nat)
    (found : Verification) : Verification :=
  match previous? with
  | none => { found with valid := found.valid + 1 }
  | some previous =>
      ({ found with duplicates := found.duplicates + 1 } : Verification).report
        (.duplicateKey key previous offset)

/-- Notes when the records do not reach the end although none of them is at fault. -/
def checkCoverage (found : Verification) : Verification :=
  if found.passed ∧ found.covered ≠ found.size then
    found.report (.uncovered found.covered found.size)
  else found

def shownFaults : Nat := 10

/-- The faults as lines, the first few in full. -/
def faultLines (faults : List RecordFault) : String :=
  let shown := faults.take shownFaults
  let more := faults.length - shown.length
  "  Errors:\n" ++
    String.join (shown.map fun fault => "    - " ++ fault.message ++ "\n") ++
    if 0 < more then "    ... and " ++ toString more ++ " more\n" else ""

def verdict (found : Verification) : String :=
  if found.passed then "✓ Record file verification passed\n"
  else "✗ Record file verification failed\n"

/-- What was found as lines for a reader, with the verdict below. -/
def toText (found : Verification) : String :=
  String.join [
    "  Records checked: ", toString found.checked, "\n",
    "  Valid records:   ", toString found.valid, "\n",
    "  Duplicate keys:  ", toString found.duplicates, "\n",
    "  Covered bytes:   ", toString found.covered, " / ", toString found.size, "\n",
    if found.passed then "" else faultLines found.faults.toList, "\n",
    found.verdict]

variable {δ : Type} [ByteDevice δ]

/-- The payload length of the record at `offset`, which must lie entirely below
`size`, given its header. -/
def checkHeader (size offset : Nat) (header : Header) : Except RecordFault Nat :=
  match header.validate maxPayloadSize with
  | .error fault => .error (.unacceptableLength offset fault)
  | .ok length =>
      if size < offset + headerSize + length then
        .error (.truncatedRecord offset (headerSize + length) (size - offset))
      else .ok length

/-- The key and the payload length of the record at `offset`. -/
def readRecord (size offset : Nat) :
    DeviceM δ (Except RecordFault (EntityId × Nat)) := do
  if size < offset + headerSize then
    return .error (.truncatedHeader offset (size - offset))
  let header := Header.decode (← ByteDevice.readInto offset headerSize)
  return (checkHeader size offset header).map fun length => (header.key, length)

/-- Walks over the records from `offset` on; `seen` tells where each key before that
has occurred last. -/
def walk (size offset : Nat) (seen : Index) (found : Verification) :
    DeviceM δ Verification :=
  if size ≤ offset then pure found
  else do
    match ← readRecord size offset with
    | .error fault => return found.check.report fault
    | .ok (key, length) =>
        let recordEnd := offset + headerSize + length
        let found := (found.check.countKey key seen[key]? offset).cover recordEnd
        walk size recordEnd (seen.insert key offset) found
termination_by size - offset
decreasing_by
  have := headerSize_pos
  omega

end Verification

def verifyRecords {δ : Type} [ByteDevice δ] : DeviceM δ Verification := do
  let size ← ByteDevice.size
  let found ← Verification.walk size 0 ∅ (.start size)
  return found.checkCoverage

end PackedRecords
