import PackedRecords.Proofs.Store.Index
import PackedRecords.Proofs.Store.Shadowing
import PackedRecords.Reference.PayloadMap

/-! # Ledgers as maps of payloads

A map agrees with a ledger when it has the payloads that the ledger leads to. Operations
keep them in agreement. Without shadowed records the map has one entry for each record,
so that their numbers and the sizes of their files agree too.
-/

namespace PackedRecords

/-! ## Payloads after an operation -/

theorem lastPayload?_replaceLast_self {key : EntityId} {records : List Record}
    (member : key ∈ keysOf records) (payload : ByteArray) :
    lastPayload? key (replaceLast key payload records) = some payload := by
  rcases exists_last_split member with ⟨before, record, after, split, same, last⟩
  rw [split, replaceLast_split same last]
  have sameKey : (⟨key, payload⟩ : Record).key = key := rfl
  exact lastPayload?_split sameKey last

/-- Of distinct keys every record is the last one. -/
theorem lastPayload?_eq_some_iff_of_nodup {key : EntityId} {payload : ByteArray}
    {records : List Record} (distinct : (keysOf records).Nodup) :
    lastPayload? key records = some payload ↔ ⟨key, payload⟩ ∈ records := by
  constructor
  · intro found
    rcases exists_last_split (mem_keysOf_of_lastPayload? found) with
      ⟨before, record, after, split, same, last⟩
    rw [split, lastPayload?_split same last] at found
    cases found
    cases same
    rw [split]
    exact List.mem_append_cons_self
  · intro member
    rcases List.append_of_mem member with ⟨before, after, split⟩
    rw [split, keysOf_append, keysOf_cons] at distinct
    have last := (List.nodup_cons.mp (List.nodup_append.mp distinct).2.1).1
    rw [split]
    have sameKey : (⟨key, payload⟩ : Record).key = key := rfl
    exact lastPayload?_split sameKey last

namespace Ledger

theorem mem_live_put {ledger : Ledger} {key other : EntityId} {payload : ByteArray} :
    other ∈ (ledger.put key payload).live ↔ key = other ∨ other ∈ ledger.live := by
  rw [put]
  by_cases inUse : key ∈ ledger.live
  · rw [if_pos inUse]
    exact ⟨.inr, fun either => either.elim (fun same => same ▸ inUse) id⟩
  · rw [if_neg inUse, Std.ExtTreeSet.mem_insert, Std.LawfulEqCmp.compare_eq_iff_eq]

theorem lastPayload?_put_of_ne {key other : EntityId} (different : key ≠ other)
    (ledger : Ledger) (payload : ByteArray) :
    lastPayload? other (ledger.put key payload).records = lastPayload? other ledger.records := by
  rw [put]
  by_cases inUse : key ∈ ledger.live
  · rw [if_pos inUse, lastPayload?_replaceLast different]
  · rw [if_neg inUse, lastPayload?_append, lastPayload?, if_neg different]
    rfl

theorem lastPayload?_put_self {ledger : Ledger}
    (recorded : ∀ key ∈ ledger.live, key ∈ keysOf ledger.records) (key : EntityId)
    (payload : ByteArray) :
    lastPayload? key (ledger.put key payload).records = some payload := by
  rw [put]
  by_cases inUse : key ∈ ledger.live
  · rw [if_pos inUse]
    exact lastPayload?_replaceLast_self (recorded key inUse) payload
  · rw [if_neg inUse, lastPayload?_append, lastPayload?, if_pos rfl]
    rfl

theorem payload?_put_of_ne {key other : EntityId} (different : key ≠ other) (ledger : Ledger)
    (payload : ByteArray) : (ledger.put key payload).payload? other = ledger.payload? other := by
  rw [payload?, payload?, lastPayload?_put_of_ne different]
  simp only [mem_live_put, different, false_or]

theorem payload?_put {ledger : Ledger}
    (recorded : ∀ key ∈ ledger.live, key ∈ keysOf ledger.records) (key other : EntityId)
    (payload : ByteArray) :
    (ledger.put key payload).payload? other =
      if key = other then some payload else ledger.payload? other := by
  by_cases same : key = other
  · rw [if_pos same, ← same, payload?, if_pos (mem_live_put.mpr (.inl rfl)),
      lastPayload?_put_self recorded]
  · rw [if_neg same, payload?_put_of_ne same]

theorem payload?_remove (ledger : Ledger) (key other : EntityId) :
    (ledger.remove key).payload? other =
      if key = other then none else ledger.payload? other := by
  rw [remove]
  by_cases inUse : key ∈ ledger.live
  · rw [if_pos inUse, payload?, payload?]
    simp only [Std.ExtTreeSet.mem_erase, ne_eq, Std.LawfulEqCmp.compare_eq_iff_eq]
    by_cases same : key = other
    · rw [if_pos same, if_neg (fun kept => kept.1 same)]
    · rw [if_neg same, lastPayload?_eraseLast same]
      simp only [same, not_false_eq_true, true_and]
  · rw [if_neg inUse]
    by_cases same : key = other
    · rw [if_pos same, ← same, payload?, if_neg inUse]
    · rw [if_neg same]

theorem Unshadowed.payload?_eq {ledger : Ledger} {key : EntityId}
    (unshadowed : ledger.Unshadowed key) :
    ledger.payload? key = lastPayload? key ledger.records := by
  rw [payload?]
  by_cases inUse : key ∈ ledger.live
  · rw [if_pos inUse]
  · rw [if_neg inUse, lastPayload?_eq_none_iff.mpr (mt unshadowed.used inUse)]

end Ledger

theorem foldl_size (records : List Record) (start : Nat) :
    records.foldl (fun size record => size + (headerSize + record.payload.size)) start =
      start + (image records).size := by
  induction records generalizing start with
  | nil => rfl
  | cons record rest induction =>
      rw [List.foldl_cons, induction, size_image_cons, Record.size_eq, Nat.add_assoc]

namespace PayloadMap

theorem getElem?_absorbed (payloads : PayloadMap) (records : List Record) (key : EntityId) :
    (records.foldl (fun payloads record => payloads.insert record.key record.payload)
      payloads)[key]? = (lastPayload? key records).or payloads[key]? := by
  induction records generalizing payloads with
  | nil => rfl
  | cons record rest induction =>
      rw [List.foldl_cons, induction, Std.ExtTreeMap.getElem?_insert, lastPayload?,
        Option.or_assoc]
      simp only [Std.LawfulEqCmp.compare_eq_iff_eq]
      by_cases same : record.key = key
      · rw [if_pos same, if_pos same, Option.some_or]
      · rw [if_neg same, if_neg same, Option.none_or]

/-- The map of some records has their last payloads. -/
theorem getElem?_ofRecords (records : List Record) (key : EntityId) :
    (ofRecords records)[key]? = lastPayload? key records := by
  rw [ofRecords, getElem?_absorbed, Std.ExtTreeMap.getElem?_empty, Option.or_none]

/-- No payload of the map is over a limit. -/
def Within (limit : Nat) (payloads : PayloadMap) : Prop :=
  ∀ entry ∈ payloads.toList, entry.2.size ≤ limit

/-! ## Agreement -/

/-- The map has the payloads that the ledger leads to. -/
def Agrees (payloads : PayloadMap) (ledger : Ledger) : Prop :=
  ∀ key, payloads[key]? = ledger.payload? key

theorem agrees_ofRecords (records : List Record) :
    (ofRecords records).Agrees (.ofRecords records) := by
  intro key
  rw [getElem?_ofRecords, Ledger.payload?_ofRecords]

namespace Agrees

variable {payloads : PayloadMap} {ledger : Ledger} (agrees : payloads.Agrees ledger)
include agrees

theorem remove (key : EntityId) : Agrees (payloads.erase key) (ledger.remove key) := by
  intro other
  rw [Std.ExtTreeMap.getElem?_erase, Ledger.payload?_remove, agrees other]
  simp only [Std.LawfulEqCmp.compare_eq_iff_eq]

section Recorded

variable (recorded : ∀ key ∈ ledger.live, key ∈ keysOf ledger.records)
include recorded

theorem put (key : EntityId) (payload : ByteArray) :
    Agrees (payloads.insert key payload) (ledger.put key payload) := by
  intro other
  rw [Std.ExtTreeMap.getElem?_insert, Ledger.payload?_put recorded, agrees other]
  simp only [Std.LawfulEqCmp.compare_eq_iff_eq]

/-- The keys of the map are those in use. -/
theorem mem_iff (key : EntityId) : key ∈ payloads ↔ key ∈ ledger.live := by
  rw [Std.ExtTreeMap.mem_iff_isSome_getElem?, agrees, Ledger.isSome_payload?_iff recorded]

end Recorded

/-! ## Without shadowed records -/

section Unshadowed

variable (unshadowed : ∀ key, ledger.Unshadowed key)
include unshadowed

/-- The map has one entry for each record. -/
theorem toList_perm : payloads.toList.Perm
    (ledger.records.map fun record => (record.key, record.payload)) := by
  have distinct : (keysOf ledger.records).Nodup :=
    List.nodup_iff_count.mpr fun key => (unshadowed key).once
  have recordsNodup :
      (ledger.records.map fun record => (record.key, record.payload)).Nodup := by
    refine List.pairwise_map.mpr ((List.pairwise_map.mp distinct).imp ?_)
    intro first second different equal
    exact different (Prod.mk.inj equal).1
  refine (List.perm_ext_iff_of_nodup nodup_toList recordsNodup).mpr ?_
  intro (key, payload)
  rw [Std.ExtTreeMap.mem_toList_iff_getElem?_eq_some, agrees, (unshadowed key).payload?_eq,
    lastPayload?_eq_some_iff_of_nodup distinct, List.mem_map]
  constructor
  · intro member
    exact ⟨_, member, rfl⟩
  · intro ⟨record, member, equal⟩
    cases equal
    exact member

/-- A limit that allows the payloads of the map allows the records. -/
theorem allWithin {limit : Nat} (within : payloads.Within limit) :
    AllWithin limit ledger.records := by
  intro record member
  have entry := (agrees.toList_perm unshadowed).mem_iff.mpr
    (List.mem_map_of_mem (f := fun record => (record.key, record.payload)) member)
  exact within _ entry

/-- The packed size of the map is the size of the file. -/
theorem packedSize_eq : payloads.packedSize = (image ledger.records).size := by
  rw [packedSize, Std.ExtTreeMap.foldl_eq_foldl_toList,
    (agrees.toList_perm unshadowed).foldl_eq' _, List.foldl_map]
  · exact (foldl_size ledger.records 0).trans (Nat.zero_add _)
  · intro first _ second _ size
    omega

end Unshadowed

end Agrees

end PayloadMap

end PackedRecords
