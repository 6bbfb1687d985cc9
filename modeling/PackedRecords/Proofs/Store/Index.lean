import PackedRecords.Proofs.Record.LastRecords
import PackedRecords.Store.Index
import Std.Data.ExtTreeSet

/-! # What an index leads to

A map is known by its entries: they determine its keys and their number, and for an
index the order of the offsets. Moving the tail of a file by the difference of two
sizes moves the offsets of the last records along.
-/

namespace PackedRecords

/-! ## Maps by key -/

section Maps

variable {β : Type} {map : Std.ExtTreeMap EntityId β compare}

theorem nodup_toList : map.toList.Nodup := by
  refine map.distinct_keys_toList.imp ?_
  intro first second distinct equal
  rw [equal] at distinct
  exact distinct Std.ReflOrd.compare_self

variable {live : Std.ExtTreeSet EntityId compare} (same : ∀ key, key ∈ map ↔ key ∈ live)
include same

theorem map_unit_eq_of_mem : map.map (fun _ _ => ()) = live.inner := by
  apply Std.ExtTreeMap.ext_mem_unit
  intro key
  rw [Std.ExtTreeMap.mem_map]
  exact same key

theorem keys_eq_of_mem : map.keys = live.toList := by
  rw [Std.ExtTreeSet.toList, ← map_unit_eq_of_mem same, Std.ExtTreeMap.keys_map]

theorem size_eq_of_mem : map.size = live.size := by
  rw [Std.ExtTreeSet.size, ← map_unit_eq_of_mem same, Std.ExtTreeMap.size_map]

theorem contains_eq_of_mem (key : EntityId) : map.contains key = live.contains key := by
  apply Bool.eq_iff_iff.mpr
  rw [Std.ExtTreeMap.contains_iff_mem, Std.ExtTreeSet.contains_iff_mem, same]

end Maps

/-! ## Offsets in their order -/

namespace Index

variable {index : Index}

theorem eq_of_offset_eq {entries : List (EntityId × Nat)}
    (sorted : entries.Pairwise fun first second => first.2 < second.2)
    {first second : EntityId × Nat} (firstMember : first ∈ entries)
    (secondMember : second ∈ entries) (equal : first.2 = second.2) : first = second := by
  induction entries with
  | nil => cases firstMember
  | cons head rest induction =>
      rcases List.pairwise_cons.mp sorted with ⟨above, sortedRest⟩
      rcases List.mem_cons.mp firstMember with firstHere | firstLater
      · rcases List.mem_cons.mp secondMember with secondHere | secondLater
        · rw [firstHere, secondHere]
        · have before := above second secondLater
          rw [← firstHere] at before
          omega
      · rcases List.mem_cons.mp secondMember with secondHere | secondLater
        · have before := above first firstLater
          rw [← secondHere] at before
          omega
        · exact induction sortedRest firstLater secondLater

/-- The entries in the order of their offsets are the only list of them that has no
two offsets the wrong way round. -/
theorem byOffset_eq {entries : List (EntityId × Nat)}
    (sorted : entries.Pairwise fun first second => first.2 < second.2)
    (same : ∀ key offset, (key, offset) ∈ entries ↔ index[key]? = some offset) :
    index.byOffset = entries := by
  have members (entry : EntityId × Nat) : entry ∈ index.toList ↔ entry ∈ entries := by
    rw [same, ← Std.ExtTreeMap.mem_toList_iff_getElem?_eq_some]
  have entriesNodup : entries.Nodup := by
    refine sorted.imp ?_
    intro first second before equal
    rw [equal] at before
    exact Nat.lt_irrefl _ before
  have permutation : index.byOffset.Perm entries :=
    (List.mergeSort_perm _ _).trans
      ((List.perm_ext_iff_of_nodup nodup_toList entriesNodup).mpr members)
  have ordered : index.byOffset.Pairwise fun first second => first.2 ≤ second.2 := by
    have merged : index.byOffset.Pairwise fun first second =>
        decide (first.2 ≤ second.2) = true := by
      apply List.pairwise_mergeSort
      · intro first second third lower upper
        simp only [decide_eq_true_eq] at lower upper ⊢
        omega
      · intro first second
        simp only [Bool.or_eq_true, decide_eq_true_eq]
        omega
    exact merged.imp of_decide_eq_true
  refine List.Perm.eq_of_pairwise ?_ ordered
    (sorted.imp fun before => Nat.le_of_lt before) permutation
  intro first second firstMember secondMember below above
  exact eq_of_offset_eq sorted (permutation.mem_iff.mp firstMember) secondMember
    (Nat.le_antisymm below above)

end Index

/-- The offsets of last records go along when something between the records before
and after is exchanged, as long as it does not decide the question itself. -/
theorem lastOffset?_moved (key : EntityId) (before old new after : List Record)
    (same : lastOffset? key (image before).size old = lastOffset? key (image before).size new) :
    (lastOffset? key 0 (before ++ old ++ after)).map (fun offset =>
        if (image before).size + (image old).size ≤ offset then
          (offset + ((image new).size - (image old).size : Int)).toNat
        else offset) =
      lastOffset? key 0 (before ++ new ++ after) := by
  let source := (image before).size + (image old).size
  rw [lastOffset?_append, lastOffset?_append _ _ (before ++ new), size_image_append,
    size_image_append, lastOffset?_add, lastOffset?_add]
  cases later : lastOffset? key 0 after with
  | some offset =>
      simp only [Option.map_some, Option.some_or, Option.some.injEq]
      rw [if_pos (by omega)]
      omega
  | none =>
      simp only [Option.map_none, Option.none_or]
      rw [lastOffset?_append, lastOffset?_append, Nat.zero_add, ← same]
      cases found : (lastOffset? key (image before).size old).or (lastOffset? key 0 before) with
      | none => rfl
      | some offset =>
          have below : offset < source := by
            rcases Option.or_eq_some_iff.mp found with here | ⟨_, earlier⟩
            · have bounds := lastOffset?_bounds here
              omega
            · have bounds := lastOffset?_bounds earlier
              omega
          rw [Option.map_some, if_neg (by omega)]

end PackedRecords
