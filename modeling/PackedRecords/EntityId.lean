import Std.Data.ExtTreeMap

/-! # Entity identifiers

An identifier is sixteen bytes, the most significant first. They are compared
byte by byte; `toNat` is the number they spell and `ofNat` its inverse below
`2 ^ 128`.
-/

namespace PackedRecords

/-- The 128-bit name of an entity, as it stands in a record. -/
structure EntityId where
  bytes : Vector UInt8 16
deriving DecidableEq, Inhabited

namespace EntityId

def size : Nat := 16

@[ext] theorem ext {a b : EntityId} (same : a.bytes = b.bytes) : a = b := by
  cases a; cases b; cases same; rfl

/-- The first differing byte decides. -/
instance : Ord EntityId where
  compare a b := compare a.bytes b.bytes

theorem compare_eq_bytes (a b : EntityId) : compare a b = compare a.bytes b.bytes :=
  rfl

instance : Std.TransOrd EntityId where
  eq_swap {a b} := by
    simp only [compare_eq_bytes]
    exact Std.OrientedOrd.eq_swap
  isLE_trans {a b c} := by
    simp only [compare_eq_bytes]
    exact Std.TransOrd.isLE_trans

instance : Std.LawfulEqOrd EntityId where
  compare_self {a} := by
    simp only [compare_eq_bytes]
    exact Std.ReflOrd.compare_self
  eq_of_compare {a b} same :=
    EntityId.ext (Std.LawfulEqOrd.eq_of_compare (compare_eq_bytes a b ▸ same))

def replicate (byte : UInt8) : EntityId :=
  ⟨Vector.replicate 16 byte⟩

/-- The identifier with exactly these bytes, if there are sixteen of them. -/
def ofByteArray? (bytes : ByteArray) : Option EntityId :=
  if sixteen : bytes.data.size = 16 then some ⟨⟨bytes.data, sixteen⟩⟩ else none

/-- The sixteen bytes, most significant first. -/
def toByteArray (id : EntityId) : ByteArray :=
  ⟨id.bytes.toArray⟩

def toNat (id : EntityId) : Nat :=
  id.bytes.toList.foldl (fun value byte => value * 256 + byte.toNat) 0

/-- The identifier spelling a number modulo `2 ^ 128`. -/
def ofNat (value : Nat) : EntityId :=
  ⟨Vector.ofFn fun position : Fin 16 => UInt8.ofNat (value >>> (8 * (15 - position.val)))⟩

/-- The identifier with these two halves, `most` in front. -/
def ofHalves (most least : UInt64) : EntityId :=
  ofNat (most.toNat <<< 64 + least.toNat)

/-- The identifier of member `number` of the test pool: a fixed upper half in front
of the number. -/
def ofPool (number : UInt64) : EntityId :=
  ofHalves 0x726f6c6564620000 number

def sort (ids : List EntityId) : List EntityId :=
  ids.mergeSort fun a b => (compare a b).isLE

@[simp] theorem size_toByteArray (id : EntityId) : id.toByteArray.size = 16 :=
  id.bytes.size_toArray

@[simp] theorem ofByteArray?_toByteArray (id : EntityId) :
    ofByteArray? id.toByteArray = some id := by
  simp [ofByteArray?, toByteArray]

private example : (ofHalves 1 2).toNat = 2 ^ 64 + 2 := by decide

end EntityId

end PackedRecords
