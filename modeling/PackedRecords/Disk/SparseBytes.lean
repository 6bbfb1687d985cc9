import PackedRecords.Bytes

/-! # Bytes with holes

The contents of a file. A long run of zeros that nobody has written is a hole, which
takes no room. `toByteArray` is what a reader of the whole file sees; the statements
at the end say that each operation does to that view what the operation of the same
name does to plain bytes.
-/

namespace PackedRecords

/-- Bytes that were written, or a hole, which is read as zeros. -/
inductive Stretch where
  | bytes (data : ByteArray)
  | hole (length : Nat)
deriving DecidableEq, Inhabited

namespace Stretch

def size : Stretch → Nat
  | bytes data => data.size
  | hole length => length

def toByteArray : Stretch → ByteArray
  | bytes data => data
  | hole length => zeroBytes length

/-- The part from `start` on that ends before `stop`. -/
def extract (start stop : Nat) : Stretch → Stretch
  | bytes data => bytes (data.extract start stop)
  | hole length => hole (min stop length - start)

end Stretch

/-- The stretches of a file in their order. -/
structure SparseBytes where
  stretches : List Stretch
deriving DecidableEq, Inhabited

namespace SparseBytes

/-- Up to this size a file that grows is filled with zeros; past it, holes are left. -/
def denseLimit : Nat := 0x1000000

/-- Bytes without a hole. -/
def ofByteArray (bytes : ByteArray) : SparseBytes :=
  ⟨[.bytes bytes]⟩

def size (contents : SparseBytes) : Nat :=
  contents.stretches.foldr (fun stretch size => stretch.size + size) 0

private def flatten : List Stretch → ByteArray
  | [] => ByteArray.empty
  | stretch :: rest => stretch.toByteArray ++ flatten rest

def toByteArray (contents : SparseBytes) : ByteArray :=
  flatten contents.stretches

private def cut : Nat → Nat → List Stretch → List Stretch
  | _, _, [] => []
  | start, stop, stretch :: rest =>
      let part := stretch.extract start stop
      let later := cut (start - stretch.size) (stop - stretch.size) rest
      if part.size = 0 then later else part :: later

/-- The part from `start` on that ends before `stop`. -/
def extract (contents : SparseBytes) (start stop : Nat) : SparseBytes :=
  ⟨cut start stop contents.stretches⟩

private def splice (contents : SparseBytes) (offset : Nat) (new : ByteArray) : SparseBytes :=
  ⟨(contents.extract 0 offset).stretches ++
    .bytes new :: (contents.extract (offset + new.size) contents.size).stretches⟩

/-- The contents with `new` laid over them from `offset` on. A file without holes is
changed in place. Callers keep `offset ≤ contents.size`, so no gap opens. -/
def overwrite (contents : SparseBytes) (offset : Nat) (new : ByteArray) : SparseBytes :=
  match contents with
  | ⟨[.bytes old]⟩ => ofByteArray (PackedRecords.overwrite old offset new)
  | contents => contents.splice offset new

/-- The first `size` bytes, with zeros added if there are fewer. -/
def resize (contents : SparseBytes) (size : Nat) : SparseBytes :=
  if size ≤ denseLimit then
    ofByteArray (PackedRecords.resize (contents.extract 0 size).toByteArray size)
  else if size ≤ contents.size then contents.extract 0 size
  else ⟨contents.stretches ++ [.hole (size - contents.size)]⟩

end SparseBytes

/-! ## What each operation does to the bytes -/

namespace Stretch

theorem size_toByteArray (stretch : Stretch) : stretch.toByteArray.size = stretch.size := by
  cases stretch <;> simp [toByteArray, size]

theorem toByteArray_extract (stretch : Stretch) (start stop : Nat) :
    (stretch.extract start stop).toByteArray = stretch.toByteArray.extract start stop := by
  cases stretch with
  | bytes data => rfl
  | hole length =>
      apply ByteArray.ext
      simp [toByteArray, extract, zeroBytes, repeatedByte_eq_replicate]

end Stretch

namespace SparseBytes

@[simp] theorem toByteArray_ofByteArray (bytes : ByteArray) :
    (ofByteArray bytes).toByteArray = bytes := by
  simp [ofByteArray, toByteArray, flatten, Stretch.toByteArray]

theorem size_toByteArray (contents : SparseBytes) :
    contents.toByteArray.size = contents.size := by
  obtain ⟨stretches⟩ := contents
  induction stretches with
  | nil => rfl
  | cons stretch rest induction =>
      simp only [toByteArray, size, flatten, ByteArray.size_append, List.foldr_cons,
        Stretch.size_toByteArray] at induction ⊢
      rw [induction]

private theorem flatten_append (first second : List Stretch) :
    flatten (first ++ second) = flatten first ++ flatten second := by
  induction first with
  | nil => simp [flatten]
  | cons stretch rest induction => simp [flatten, induction, ByteArray.append_assoc]

private theorem flatten_cut (start stop : Nat) (stretches : List Stretch) :
    flatten (cut start stop stretches) = (flatten stretches).extract start stop := by
  induction stretches generalizing start stop with
  | nil =>
      rw [cut, flatten, ByteArray.extract_eq_empty_iff.mpr]
      exact Nat.le_trans (Nat.min_le_right ..) (Nat.zero_le _)
  | cons stretch rest induction =>
      rw [flatten, ByteArray.extract_append, Stretch.size_toByteArray, ← induction,
        ← Stretch.toByteArray_extract, cut]
      split
      · rename_i nothing
        rw [← Stretch.size_toByteArray, ByteArray.size_eq_zero_iff] at nothing
        rw [nothing, ByteArray.empty_append]
      · rfl

@[simp] theorem toByteArray_extract (contents : SparseBytes) (start stop : Nat) :
    (contents.extract start stop).toByteArray = contents.toByteArray.extract start stop :=
  flatten_cut start stop contents.stretches

private theorem toByteArray_splice (contents : SparseBytes) (offset : Nat) (new : ByteArray) :
    (contents.splice offset new).toByteArray =
      PackedRecords.overwrite contents.toByteArray offset new := by
  rw [splice, toByteArray, flatten_append, flatten]
  change (contents.extract 0 offset).toByteArray ++
    (new ++ (contents.extract (offset + new.size) contents.size).toByteArray) = _
  rw [toByteArray_extract, toByteArray_extract, PackedRecords.overwrite,
    ByteArray.copySlice_eq_append, ← size_toByteArray, ByteArray.append_assoc]
  congr 2
  · rw [Nat.zero_add, ByteArray.extract_zero_size]
  · rw [Nat.sub_zero, ByteArray.size, ByteArray.size, Nat.min_self]

@[simp] theorem toByteArray_overwrite (contents : SparseBytes) (offset : Nat)
    (new : ByteArray) :
    (contents.overwrite offset new).toByteArray =
      PackedRecords.overwrite contents.toByteArray offset new := by
  rw [overwrite.eq_def]
  split
  · rename_i old
    rw [toByteArray_ofByteArray]
    exact congrArg (PackedRecords.overwrite · offset new) (toByteArray_ofByteArray old).symm
  · exact toByteArray_splice ..

@[simp] theorem toByteArray_resize (contents : SparseBytes) (size : Nat) :
    (contents.resize size).toByteArray = PackedRecords.resize contents.toByteArray size := by
  rw [resize]
  split
  · rw [toByteArray_ofByteArray, toByteArray_extract, resize_extract]
  · split
    · rename_i _ shorter
      rw [toByteArray_extract, PackedRecords.resize, if_pos (by rwa [size_toByteArray])]
    · rename_i _ longer
      rw [PackedRecords.resize, if_neg (by rwa [size_toByteArray]), size_toByteArray]
      rw [toByteArray, flatten_append]
      simp [flatten, Stretch.toByteArray, toByteArray]

end SparseBytes

end PackedRecords
