import PackedRecords.Bytes
import PackedRecords.EntityId

/-! # Record headers

A record starts with twenty bytes: the sixteen of its key and the length of its
payload as four bytes, most significant first. `Header.validate` accepts a length
that is not negative as a signed number and not over a limit.
-/

namespace PackedRecords

def keySize : Nat := EntityId.size

def lengthSize : Nat := 4

def headerSize : Nat := keySize + lengthSize

theorem headerSize_pos : 0 < headerSize := by decide

/-- No payload may be longer than this, whatever a store is configured for. -/
def maxPayloadSize : Nat := 4 * 1024 * 1024

/-- Why the bytes at some offset are not a record. -/
inductive Corruption where
  | truncatedHeader (remaining : Nat)
  | negativeLength (length : UInt32)
  | lengthOverLimit (length : UInt32) (limit : Nat)
  | payloadPastEnd (recordEnd size : Nat)
deriving DecidableEq, Inhabited

namespace Corruption

def message : Corruption → String
  | truncatedHeader remaining =>
      "truncated header (" ++ toString remaining ++ " bytes remain)"
  | negativeLength length =>
      "size is negative (" ++ toString length.toInt32.toInt ++ " < 0)"
  | lengthOverLimit length limit =>
      "size greater than maximum (" ++ toString length.toNat ++ " > " ++
        toString limit ++ ")"
  | payloadPastEnd recordEnd size =>
      "payload runs past end of file (" ++ toString recordEnd ++ " > " ++
        toString size ++ ")"

end Corruption

/-- A payload length as it stands in a record: it must not be negative as a signed
32-bit number, and it must not exceed the limit. -/
def validateLength (length : UInt32) (limit : Nat) : Except Corruption Nat :=
  if 0x80000000 ≤ length.toNat then .error (.negativeLength length)
  else if limit < length.toNat then .error (.lengthOverLimit length limit)
  else .ok length.toNat

/-- The fixed part of a record. -/
structure Header where
  key : EntityId
  length : UInt32
deriving DecidableEq, Inhabited

namespace Header

def encode (header : Header) : ByteArray :=
  header.key.toByteArray ++ bigEndian32 header.length

/-- The header in the first twenty bytes; missing bytes count as zero. -/
def decode (bytes : ByteArray) : Header where
  key := ⟨Vector.ofFn fun position : Fin 16 => byteAt bytes position.val⟩
  length := readBigEndian32 bytes keySize

/-- The payload length, if it is acceptable. -/
def validate (header : Header) (limit : Nat) : Except Corruption Nat :=
  validateLength header.length limit

def recordSize (header : Header) : Nat :=
  headerSize + header.length.toNat

@[simp] theorem size_encode (header : Header) : header.encode.size = headerSize := by
  simp [encode, headerSize, keySize, lengthSize, EntityId.size]

private example :
    decode (encode ⟨EntityId.replicate 7, 0x00400001⟩) =
      ⟨EntityId.replicate 7, 0x00400001⟩ := by
  decide +kernel

end Header

end PackedRecords
