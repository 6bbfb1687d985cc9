import PackedRecords.Proofs.Store.InMemory
import PackedRecords.Proofs.Store.Index
import PackedRecords.Proofs.Store.Ledger
import PackedRecords.Proofs.Store.Opening

/-! # Stores that ledgers describe

A ledger describes a store when the device holds the image of its records and the
index leads to the last records of the keys in use. A store just opened is described
by the records of the device. Every operation answers what the ledger answers and
leaves a store that the changed ledger describes.
-/

namespace PackedRecords

namespace Ledger

/-- The device, the index and the limit of an open store agree with the ledger. -/
structure Describes {δ : Type} [ByteDevice δ] [FaithfulDevice δ] (ledger : Ledger)
    (store : Store δ) : Prop where
  isOpen : store.isOpen = true
  contents : FaithfulDevice.contents store.device = image ledger.records
  index : ∀ key, store.index[key]? = ledger.offset? key
  recorded : ∀ key ∈ ledger.live, key ∈ keysOf ledger.records
  within : AllWithin store.config.payloadLimit ledger.records

theorem describes_inMemory {δ : Type} [ByteDevice δ] [FaithfulDevice δ] {ledger : Ledger}
    {store : Store δ} : ledger.Describes store.inMemory ↔ ledger.Describes store := by
  constructor
  · intro ⟨isOpen, contents, index, recorded, within⟩
    exact ⟨isOpen, contents, index, recorded, within⟩
  · intro ⟨isOpen, contents, index, recorded, within⟩
    exact ⟨isOpen, contents, index, recorded, within⟩

theorem describes_opened {config : Config} {records : List Record}
    (within : AllWithin config.payloadLimit records) :
    (ofRecords records).Describes (Store.opened config records) where
  isOpen := rfl
  contents := rfl
  index key := by
    rw [offset?_ofRecords]
    exact getElem?_indexFrom_empty key records
  recorded _ member := mem_live_ofRecords.mp member
  within := within

namespace Describes

variable {ledger : Ledger}

theorem mem_index {store : Store Memory} (describes : ledger.Describes store)
    (key : EntityId) : key ∈ store.index ↔ key ∈ ledger.live := by
  rw [Std.ExtTreeMap.mem_iff_isSome_getElem?, describes.index,
    isSome_offset?_iff describes.recorded]

variable {bytes : ByteArray} {index : Index} {config : Config} {stats : Stats}

/-- Only the counters of the store are not described. -/
theorem restat {isOpen : Bool}
    (describes : ledger.Describes (⟨⟨bytes⟩, index, config, stats, isOpen⟩ : Store Memory))
    (other : Stats) :
    ledger.Describes (⟨⟨bytes⟩, index, config, other, isOpen⟩ : Store Memory) :=
  ⟨describes.isOpen, describes.contents, describes.index, describes.recorded,
    describes.within⟩

/-- The record of a key in use lies where the index says, between other records. -/
theorem exists_split
    (describes : ledger.Describes (⟨⟨bytes⟩, index, config, stats, true⟩ : Store Memory))
    {key : EntityId} (inUse : key ∈ ledger.live) :
    ∃ before record after, ledger.records = before ++ record :: after ∧ record.key = key ∧
      key ∉ keysOf after ∧ index[key]? = some (image before).size ∧
      bytes = image before ++ record.encode ++ image after ∧
      record.payload.size ≤ config.payloadLimit := by
  rcases exists_last_split (describes.recorded key inUse) with
    ⟨before, record, after, split, same, last⟩
  have found := describes.index key
  have held : bytes = image ledger.records := describes.contents
  have short := describes.within record (by rw [split]; simp)
  rw [offset?, if_pos inUse, split, lastOffset?_split same last, Nat.zero_add] at found
  rw [split, image_split] at held
  exact ⟨before, record, after, split, same, last, found, held, short⟩

theorem getElem?_index_of_not_mem
    (describes : ledger.Describes (⟨⟨bytes⟩, index, config, stats, true⟩ : Store Memory))
    {key : EntityId} (unused : key ∉ ledger.live) : index[key]? = none := by
  have found := describes.index key
  rwa [offset?, if_neg unused] at found

/-! ## Changed ledgers -/

theorem appended
    (describes : ledger.Describes (⟨⟨bytes⟩, index, config, stats, true⟩ : Store Memory))
    {key : EntityId} (unused : key ∉ ledger.live) {payload : ByteArray}
    (short : payload.size ≤ config.payloadLimit) (other : Stats) :
    (ledger.put key payload).Describes (⟨⟨bytes ++ Record.encode ⟨key, payload⟩⟩,
      index.insert key bytes.size, config, other, true⟩ : Store Memory) := by
  have held : bytes = image ledger.records := describes.contents
  rw [put, if_neg unused]
  refine ⟨rfl, ?_, ?_, ?_, ?_⟩
  · change bytes ++ _ = image (ledger.records ++ [⟨key, payload⟩])
    rw [held, image_append, image_cons, image_nil, ByteArray.append_empty]
  · intro candidate
    have before := describes.index candidate
    change (index.insert key bytes.size)[candidate]? = _
    change index[candidate]? = _ at before
    rw [Std.ExtTreeMap.getElem?_insert, before, offset?, offset?, lastOffset?_append,
      Nat.zero_add, ← held]
    simp only [Std.LawfulEqCmp.compare_eq_iff_eq, Std.ExtTreeSet.mem_insert, lastOffset?,
      Option.none_or]
    by_cases same : key = candidate
    · rw [if_pos same, if_pos (.inl same), if_pos same, Option.some_or]
    · rw [if_neg same, if_neg same, Option.none_or]
      simp only [same, false_or]
  · intro candidate inUse
    simp only [keysOf_append, keysOf_cons, keysOf_nil, List.mem_append, List.mem_singleton]
    rcases Std.ExtTreeSet.mem_insert.mp inUse with same | earlier
    · exact .inr (Std.LawfulEqCmp.compare_eq_iff_eq.mp same).symm
    · exact .inl (describes.recorded candidate earlier)
  · intro record member
    rcases List.mem_append.mp member with earlier | new
    · exact describes.within record earlier
    · rw [List.mem_singleton.mp new]
      exact short

section Split

variable {before after : List Record} {record : Record}
  (describes : ledger.Describes (⟨⟨bytes⟩, index, config, stats, true⟩ : Store Memory))
  (split : ledger.records = before ++ record :: after) (inUse : record.key ∈ ledger.live)
  (last : record.key ∉ keysOf after)
include describes split inUse last

theorem replaced {payload : ByteArray} (short : payload.size ≤ config.payloadLimit)
    {newIndex : Index}
    (moved : ∀ key : EntityId, newIndex[key]? = index[key]?.map fun offset : Nat =>
      if (image before).size + record.size ≤ offset then
        (offset + ((payload.size : Int) - record.payload.size)).toNat
      else offset)
    (other : Stats) :
    (ledger.put record.key payload).Describes
      (⟨⟨image before ++ Record.encode ⟨record.key, payload⟩ ++ image after⟩, newIndex, config,
        other, true⟩ : Store Memory) := by
  let new : Record := ⟨record.key, payload⟩
  have within := describes.within
  rw [put, if_pos inUse, split, replaceLast_split rfl last]
  rw [split] at within
  refine ⟨rfl, (image_split before new after).symm, ?_, ?_, ?_⟩
  · intro key
    have found := describes.index key
    change index[key]? = _ at found
    change newIndex[key]? = _
    rw [moved, found, offset?, offset?]
    by_cases used : key ∈ ledger.live
    · have exchanged := lastOffset?_moved key before [record] [new] after rfl
      have size : (image [record]).size = record.size := by simp [size_image_cons]
      have newSize : (image [new]).size = new.size := by simp [size_image_cons]
      have delta : ((new.size : Int) - record.size) = payload.size - record.payload.size := by
        simp only [Record.size_eq, new]
        omega
      rw [size, newSize, delta] at exchanged
      rw [if_pos used, if_pos used, split]
      simpa only [List.append_assoc, List.singleton_append] using exchanged
    · rw [if_neg used, if_neg used]
      rfl
  · intro key used
    have member := describes.recorded key used
    rw [split] at member
    simpa only [keysOf_append, keysOf_cons] using member
  · intro candidate member
    rcases List.mem_append.mp member with earlier | here
    · exact within candidate (List.mem_append_left _ earlier)
    · rcases List.mem_cons.mp here with same | later
      · rw [same]
        exact short
      · exact within candidate (List.mem_append_right _ (List.mem_cons_of_mem _ later))

theorem removed (other : Stats) :
    (ledger.remove record.key).Describes
      (⟨⟨image before ++ image after⟩,
        Index.shiftFrom (index.erase record.key) ((image before).size + record.size)
          (-(record.size : Int)), config, other, true⟩ : Store Memory) := by
  have within := describes.within
  rw [remove, if_pos inUse, split, eraseLast_split rfl last]
  rw [split] at within
  refine ⟨rfl, (image_append before after).symm, ?_, ?_, ?_⟩
  · intro key
    have found := describes.index key
    change index[key]? = _ at found
    change (Index.shiftFrom _ _ _)[key]? = _
    rw [Index.getElem?_shiftFrom, Std.ExtTreeMap.getElem?_erase, found, offset?, offset?]
    simp only [Std.LawfulEqCmp.compare_eq_iff_eq, Std.ExtTreeSet.mem_erase, ne_eq]
    by_cases same : record.key = key
    · rw [if_pos same, if_neg (fun erased => erased.1 same)]
      rfl
    · rw [if_neg same]
      by_cases used : key ∈ ledger.live
      · have exchanged := lastOffset?_moved key before [record] [] after
          (by simp [lastOffset?, same])
        have size : (image [record]).size = record.size := by simp [size_image_cons]
        have delta : (((image []).size : Int) - record.size) = -record.size := by
          rw [image_nil, ByteArray.size_empty]
          omega
        rw [size, delta] at exchanged
        rw [if_pos used, if_pos ⟨same, used⟩, split]
        simpa only [List.append_assoc, List.singleton_append, List.nil_append] using exchanged
      · rw [if_neg used, if_neg (fun erased => used erased.2)]
        rfl
  · intro key erased
    rcases Std.ExtTreeSet.mem_erase.mp erased with ⟨different, used⟩
    have member := describes.recorded key used
    rw [split] at member
    simp only [keysOf_append, keysOf_cons, List.mem_append, List.mem_cons] at member ⊢
    rcases member with earlier | same | later
    · exact .inl earlier
    · rw [same] at different
      exact absurd Std.ReflCmp.compare_self different
    · exact .inr later
  · intro candidate member
    rcases List.mem_append.mp member with earlier | later
    · exact within candidate (List.mem_append_left _ earlier)
    · exact within candidate (List.mem_append_right _ (List.mem_cons_of_mem _ later))

end Split

end Describes

end Ledger

end PackedRecords
