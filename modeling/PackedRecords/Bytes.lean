/-! # Byte strings

The few operations on `ByteArray` that every byte store is made of: fresh zero
bytes, overwriting a stretch, cutting or zero-extending to a length, and the
big-endian form of a 32-bit number.
-/

namespace PackedRecords

/-- Byte strings are equal when their arrays are. -/
instance instDecidableEqBytes : DecidableEq ByteArray :=
  ByteArray.instDecidableEq

def repeatedByte (byte : UInt8) (count : Nat) : ByteArray :=
  if count = 0 then ByteArray.empty
  else
    let half := repeatedByte byte (count / 2)
    if count % 2 = 0 then half ++ half else (half ++ half).push byte
termination_by count

/-- Fresh storage holds zeros. -/
def zeroBytes (count : Nat) : ByteArray :=
  repeatedByte 0 count

/-- The byte at a position, and zero past the end. -/
def byteAt (bytes : ByteArray) (position : Nat) : UInt8 :=
  if inside : position < bytes.size then bytes[position] else 0

/-- `old` with `new` laid over it from `offset` on; it grows when `new` reaches
past its end. Callers keep `offset ≤ old.size`, so no gap opens. -/
def overwrite (old : ByteArray) (offset : Nat) (new : ByteArray) : ByteArray :=
  new.copySlice 0 old offset new.size false

/-- The first `size` bytes, with zeros added if there are fewer. -/
def resize (bytes : ByteArray) (size : Nat) : ByteArray :=
  if size ≤ bytes.size then bytes.extract 0 size
  else bytes ++ zeroBytes (size - bytes.size)

/-- The four bytes of a 32-bit number, most significant first. -/
def bigEndian32 (number : UInt32) : ByteArray :=
  ⟨#[(number >>> 24).toUInt8, (number >>> 16).toUInt8, (number >>> 8).toUInt8,
    number.toUInt8]⟩

/-- The number whose most significant byte stands at `position`. -/
def readBigEndian32 (bytes : ByteArray) (position : Nat) : UInt32 :=
  ((byteAt bytes position).toUInt32 <<< 24) |||
  ((byteAt bytes (position + 1)).toUInt32 <<< 16) |||
  ((byteAt bytes (position + 2)).toUInt32 <<< 8) |||
  (byteAt bytes (position + 3)).toUInt32

private example : readBigEndian32 (bigEndian32 0x01020304) 0 = 0x01020304 := by
  decide

theorem repeatedByte_eq_replicate (byte : UInt8) (count : Nat) :
    repeatedByte byte count = ⟨Array.replicate count byte⟩ := by
  fun_induction repeatedByte byte count with
  | case1 => rfl
  | case2 count positive half even induction =>
      apply ByteArray.ext
      rw [show half = _ from induction, ByteArray.data_append, Array.replicate_append_replicate]
      congr 1
      omega
  | case3 count positive half odd induction =>
      apply ByteArray.ext
      rw [show half = _ from induction, ByteArray.data_push, ByteArray.data_append,
        Array.replicate_append_replicate, ← Array.replicate_succ]
      congr 1
      omega

@[simp] theorem size_zeroBytes (count : Nat) : (zeroBytes count).size = count := by
  simp [zeroBytes, repeatedByte_eq_replicate, ByteArray.size]

/-- Bytes past the new size do not matter. -/
theorem resize_extract (bytes : ByteArray) (size : Nat) :
    resize (bytes.extract 0 size) size = resize bytes size := by
  rw [resize, resize, ByteArray.size_extract, Nat.sub_zero]
  by_cases shorter : size ≤ bytes.size
  · rw [Nat.min_eq_left shorter, if_pos (Nat.le_refl size), if_pos shorter,
      ByteArray.extract_extract, Nat.zero_add, Nat.zero_add, Nat.min_self]
  · have longer : bytes.size ≤ size := by omega
    have whole : bytes.extract 0 size = bytes :=
      ByteArray.ext (by rw [ByteArray.data_extract, Array.extract_eq_self_of_le longer])
    rw [Nat.min_eq_right longer, if_neg shorter, if_neg shorter, whole]

@[simp] theorem size_bigEndian32 (number : UInt32) : (bigEndian32 number).size = 4 :=
  rfl

end PackedRecords
