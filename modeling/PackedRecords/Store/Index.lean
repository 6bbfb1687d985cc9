import PackedRecords.EntityId

/-! # The index of a record file

The index maps every key to the offset of its record's header. Two indexes with
the same entries are equal.
-/

namespace PackedRecords

abbrev Index := Std.ExtTreeMap EntityId Nat compare

namespace Index

/-- Moves the entries at or past `source` along with the bytes there. -/
def shiftFrom (index : Index) (source : Nat) (delta : Int) : Index :=
  index.map fun _ offset =>
    if source ≤ offset then (offset + delta).toNat else offset

def byOffset (index : Index) : List (EntityId × Nat) :=
  index.toList.mergeSort fun first second => first.2 ≤ second.2

theorem getElem?_shiftFrom (index : Index) (source : Nat) (delta : Int) (key : EntityId) :
    (index.shiftFrom source delta)[key]? =
      index[key]?.map fun offset =>
        if source ≤ offset then (offset + delta).toNat else offset := by
  simp [shiftFrom, Std.ExtTreeMap.getElem?_map]

end Index

end PackedRecords
