import PackedRecords.Proofs.Record.LastRecords
import PackedRecords.Store.Operation
import Std.Data.ExtTreeSet

/-! # Ledgers

A ledger is what a record store means: the records in the order of the file, and the
keys whose last record the store leads to. It knows nothing of bytes, offsets kept in
an index or tails that move; every operation changes the list and the keys and answers
from them.
-/

namespace PackedRecords

/-- Records in file order, and the keys that are in use. A record whose key is not in
use, and one that a later record of its key follows, are not led to. -/
structure Ledger where
  records : List Record
  live : Std.ExtTreeSet EntityId compare

namespace Ledger

/-- All keys of the records are in use. -/
def ofRecords (records : List Record) : Ledger :=
  ⟨records, .ofList (keysOf records) compare⟩

/-- Where the record of a key starts. -/
def offset? (ledger : Ledger) (key : EntityId) : Option Nat :=
  if key ∈ ledger.live then lastOffset? key 0 ledger.records else none

/-- The payload of a key. -/
def payload? (ledger : Ledger) (key : EntityId) : Option ByteArray :=
  if key ∈ ledger.live then lastPayload? key ledger.records else none

/-- The last records of the keys in use, laid out from `start` on. -/
def listingFrom (live : Std.ExtTreeSet EntityId compare) (start : Nat) :
    List Record → List RecordInfo
  | [] => []
  | record :: rest =>
      let later := listingFrom live (start + record.size) rest
      if record.key ∈ live ∧ record.key ∉ keysOf rest then
        ⟨record.key, start, UInt32.ofNat record.payload.size⟩ :: later
      else later

/-- The records that are led to. -/
def listing (ledger : Ledger) : List RecordInfo :=
  listingFrom ledger.live 0 ledger.records

/-- A key in use gets another payload in its last record, any other key a record at
the end. -/
def put (ledger : Ledger) (key : EntityId) (payload : ByteArray) : Ledger :=
  if key ∈ ledger.live then { ledger with records := replaceLast key payload ledger.records }
  else ⟨ledger.records ++ [⟨key, payload⟩], ledger.live.insert key⟩

/-- A key in use loses its last record and is no longer in use. -/
def remove (ledger : Ledger) (key : EntityId) : Ledger :=
  if key ∈ ledger.live then ⟨eraseLast key ledger.records, ledger.live.erase key⟩ else ledger

/-- What an operation answers and changes, if payloads are limited. -/
def apply (limit : Nat) (ledger : Ledger) :
    StoreOperation → Except StoreError StoreAnswer × Ledger
  | .put key payload =>
      if limit < payload.size then (.error (.payloadTooLarge payload.size limit), ledger)
      else (.ok .done, ledger.put key payload)
  | .get key => (.ok (.payload (ledger.payload? key)), ledger)
  | .remove key => (.ok (.flag (ledger.live.contains key)), ledger.remove key)
  | .contains key => (.ok (.flag (ledger.live.contains key)), ledger)
  | .offsetOf key => (.ok (.offset (ledger.offset? key)), ledger)
  | .length => (.ok (.number ledger.live.size), ledger)
  | .isEmpty => (.ok (.flag ledger.live.isEmpty), ledger)
  | .keys => (.ok (.keys ledger.live.toList), ledger)
  | .fileSize => (.ok (.number (image ledger.records).size), ledger)
  | .scan => (.ok (.records ledger.listing), ledger)
  | .flush | .sync | .close => (.ok .done, ledger)

/-- Runs operations one after another. -/
def runAll (limit : Nat) (operations : List StoreOperation) (ledger : Ledger) :
    List (Except StoreError StoreAnswer) × Ledger :=
  match operations with
  | [] => ([], ledger)
  | operation :: rest =>
      let (answer, ledger) := ledger.apply limit operation
      let (answers, ledger) := runAll limit rest ledger
      (answer :: answers, ledger)

/-! ## Keys in use -/

@[simp] theorem mem_live_ofRecords {records : List Record} {key : EntityId} :
    key ∈ (ofRecords records).live ↔ key ∈ keysOf records := by
  rw [ofRecords, Std.ExtTreeSet.mem_ofList, List.contains_iff_mem]

theorem offset?_ofRecords (records : List Record) (key : EntityId) :
    (ofRecords records).offset? key = lastOffset? key 0 records := by
  rw [offset?]
  by_cases member : key ∈ keysOf records
  · rw [if_pos (mem_live_ofRecords.mpr member)]
    rfl
  · rw [if_neg (mt mem_live_ofRecords.mp member), lastOffset?_eq_none_iff.mpr member]

theorem payload?_ofRecords (records : List Record) (key : EntityId) :
    (ofRecords records).payload? key = lastPayload? key records := by
  rw [payload?]
  by_cases member : key ∈ keysOf records
  · rw [if_pos (mem_live_ofRecords.mpr member)]
    rfl
  · rw [if_neg (mt mem_live_ofRecords.mp member), lastPayload?_eq_none_iff.mpr member]

/-- Something is found exactly under the condition, if it is always there under it. -/
theorem isSome_ite_iff {α : Type} {condition : Prop} [Decidable condition] {found : Option α}
    (there : condition → found ≠ none) :
    (if condition then found else none).isSome ↔ condition := by
  by_cases holds : condition
  · rw [if_pos holds, Option.isSome_iff_ne_none]
    exact ⟨fun _ => holds, there⟩
  · rw [if_neg holds]
    exact ⟨fun impossible => absurd impossible Bool.false_ne_true,
      fun impossible => absurd impossible holds⟩

section Recorded

variable {ledger : Ledger} (recorded : ∀ key ∈ ledger.live, key ∈ keysOf ledger.records)
include recorded

theorem isSome_offset?_iff {key : EntityId} :
    (ledger.offset? key).isSome ↔ key ∈ ledger.live := by
  rw [offset?]
  exact isSome_ite_iff fun inUse missing =>
    lastOffset?_eq_none_iff.mp missing (recorded key inUse)

theorem isSome_payload?_iff {key : EntityId} :
    (ledger.payload? key).isSome ↔ key ∈ ledger.live := by
  rw [payload?]
  exact isSome_ite_iff fun inUse missing =>
    lastPayload?_eq_none_iff.mp missing (recorded key inUse)

end Recorded

/-! ## Listings -/

/-- A listing has the last records of the keys in use and no others. -/
theorem mem_listingFrom {live : Std.ExtTreeSet EntityId compare} {start : Nat}
    {records : List Record} {info : RecordInfo} :
    info ∈ listingFrom live start records ↔
      ∃ before record after, records = before ++ record :: after ∧ record.key ∈ live ∧
        record.key ∉ keysOf after ∧
        info = ⟨record.key, start + (image before).size,
          UInt32.ofNat record.payload.size⟩ := by
  induction records generalizing start with
  | nil =>
      constructor
      · intro member
        cases member
      · intro ⟨before, record, after, split, _⟩
        cases before <;> cases split
  | cons head rest induction =>
      have further : info ∈ listingFrom live (start + head.size) rest ↔
          ∃ before record after, head :: rest = (head :: before) ++ record :: after ∧
            record.key ∈ live ∧ record.key ∉ keysOf after ∧
            info = ⟨record.key, start + (image (head :: before)).size,
              UInt32.ofNat record.payload.size⟩ := by
        rw [induction]
        simp only [size_image_cons, List.cons_append, List.cons.injEq, true_and, Nat.add_assoc]
      constructor
      · intro member
        rw [listingFrom] at member
        by_cases shown : head.key ∈ live ∧ head.key ∉ keysOf rest
        · rw [if_pos shown] at member
          rcases List.mem_cons.mp member with here | later
          · exact ⟨[], head, rest, rfl, shown.1, shown.2, here⟩
          · rcases further.mp later with ⟨before, found⟩
            exact ⟨head :: before, found⟩
        · rw [if_neg shown] at member
          rcases further.mp member with ⟨before, found⟩
          exact ⟨head :: before, found⟩
      · intro ⟨before, record, after, split, inUse, last, same⟩
        rw [listingFrom]
        cases before with
        | nil =>
            cases split
            rw [if_pos ⟨inUse, last⟩]
            exact List.mem_cons.mpr (.inl same)
        | cons first before =>
            have sameHead : head = first := (List.cons.inj split).1
            rw [← sameHead] at split same
            have later := further.mpr ⟨before, record, after, split, inUse, last, same⟩
            by_cases shown : head.key ∈ live ∧ head.key ∉ keysOf rest
            · rw [if_pos shown]
              exact List.mem_cons_of_mem _ later
            · rw [if_neg shown]
              exact later

theorem start_le_of_mem_listingFrom {live : Std.ExtTreeSet EntityId compare} {start : Nat}
    {records : List Record} {info : RecordInfo}
    (member : info ∈ listingFrom live start records) : start ≤ info.offset := by
  rcases mem_listingFrom.mp member with ⟨before, record, after, _, _, _, same⟩
  rw [same]
  exact Nat.le_add_right ..

/-- A listing follows the order of the file. -/
theorem pairwise_listingFrom (live : Std.ExtTreeSet EntityId compare) (start : Nat)
    (records : List Record) :
    (listingFrom live start records).Pairwise fun first second =>
      first.offset < second.offset := by
  induction records generalizing start with
  | nil => exact .nil
  | cons head rest induction =>
      have sorted := induction (start + head.size)
      rw [listingFrom]
      by_cases shown : head.key ∈ live ∧ head.key ∉ keysOf rest
      · rw [if_pos shown]
        refine List.pairwise_cons.mpr ⟨?_, sorted⟩
        intro info member
        have bound := start_le_of_mem_listingFrom member
        have positive := head.size_pos
        change start < info.offset
        omega
      · rw [if_neg shown]
        exact sorted

/-- The entries of a listing are the keys in use with their offsets. -/
theorem mem_listing_iff {ledger : Ledger} {key : EntityId} {offset : Nat} :
    (key, offset) ∈ ledger.listing.map (fun info => (info.key, info.offset)) ↔
      ledger.offset? key = some offset := by
  rw [List.mem_map, offset?]
  constructor
  · intro ⟨info, member, same⟩
    rcases mem_listingFrom.mp member with ⟨before, record, after, split, inUse, last, found⟩
    cases found
    cases same
    rw [if_pos inUse, split]
    exact lastOffset?_split rfl last 0
  · intro found
    split at found
    · rename_i inUse
      rcases lastOffset?_eq_some_iff.mp found with
        ⟨before, record, after, split, same, last, place⟩
      cases same
      refine ⟨_, mem_listingFrom.mpr ⟨before, record, after, split, inUse, last, rfl⟩, ?_⟩
      rw [place]
    · cases found

end Ledger

end PackedRecords
