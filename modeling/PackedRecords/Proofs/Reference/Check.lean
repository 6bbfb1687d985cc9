import PackedRecords.Proofs.Reference.PayloadMap
import PackedRecords.Proofs.Store.LedgerRun
import PackedRecords.Reference.Check

/-! # Checks that pass

In memory no check ends early on a store whose ledger agrees with the map. On other
faithful media a check does what it does in memory, unless the medium refuses a call.
-/

namespace PackedRecords

open CheckM

/-! ## Checks in memory -/

/-- On stores that the ledger describes the check passes, and leaves stores that the
next ledger describes. -/
def Ledger.Passes {α : Type} (ledger : Ledger) (limit : Nat) (check : CheckM Memory α)
    (value : α) (next : Ledger) : Prop :=
  ∀ store, ledger.Describes store → store.config.payloadLimit = limit →
    ∃ after, check store = .ok value after ∧ next.Describes after ∧
      after.config.payloadLimit = limit

theorem StoreOperation.run_of_outcome {operation : StoreOperation} {store after : Store Memory}
    {answer : StoreAnswer} (outcome : operation.outcome store = (.ok answer, after)) :
    operation.run store = .ok answer after := by
  rw [StoreOperation.outcome] at outcome
  cases ran : operation.run store with
  | ok other final =>
      rw [ran] at outcome
      cases outcome
      rfl
  | error failure final =>
      rw [ran] at outcome
      cases outcome

namespace Ledger

variable {α β : Type} {ledger middle next : Ledger} {limit : Nat}

theorem passes_pure (value : α) : ledger.Passes limit (pure value) value ledger := by
  intro store describes sameLimit
  exact ⟨store, rfl, describes, sameLimit⟩

theorem Passes.bind {check : CheckM Memory α} {rest : α → CheckM Memory β} {value : α}
    {result : β} (first : ledger.Passes limit check value middle)
    (second : middle.Passes limit (rest value) result next) :
    ledger.Passes limit (check >>= rest) result next := by
  intro store describes sameLimit
  rcases first store describes sameLimit with ⟨between, ran, betweenDescribes, betweenLimit⟩
  rw [bind_of_ok ran]
  exact second between betweenDescribes betweenLimit

theorem passes_require {condition : Bool} (holds : condition = true) (mismatch : Mismatch) :
    ledger.Passes limit (require condition mismatch) () ledger := by
  intro store describes sameLimit
  refine ⟨store, ?_, describes, sameLimit⟩
  rw [require, if_pos holds]

theorem passes_equal [BEq α] [LawfulBEq α] {found expected : α} (same : found = expected)
    (mismatch : Mismatch) :
    ledger.Passes limit (require (found == expected) mismatch) () ledger :=
  passes_require (beq_iff_eq.mpr same) mismatch

/-- What the ledger answers without a failure, the store answers too. -/
theorem passes_onStore {action : StoreM Memory α} {value : α} (wrap : α → StoreAnswer)
    (injective : ∀ left right, wrap left = wrap right → left = right)
    (operation : StoreOperation) (notClose : operation ≠ .close)
    (wrapped : operation.run = action >>= fun value => pure (wrap value))
    (applied : ledger.apply limit operation = (.ok (wrap value), next)) :
    ledger.Passes limit (onStore action) value next := by
  intro store describes sameLimit
  rcases describes.outcome_eq notClose with ⟨after, outcome, afterDescribes, sameConfig⟩
  rw [sameLimit, applied] at outcome afterDescribes
  have ran := StoreOperation.run_of_outcome outcome
  rw [wrapped] at ran
  refine ⟨after, ?_, afterDescribes, ?_⟩
  · rw [onStore, ok_of_bind_pure injective ran]
  · rw [sameConfig]
    exact sameLimit

/-! ## Operations -/

theorem passes_put {key : EntityId} {payload : ByteArray} (short : payload.size ≤ limit) :
    ledger.Passes limit (onStore (Store.put key payload)) () (ledger.put key payload) :=
  passes_onStore (fun _ => .done) (fun _ _ _ => rfl) (.put key payload) nofun rfl
    (by rw [apply, if_neg (Nat.not_lt_of_le short)])

theorem passes_remove (key : EntityId) :
    ledger.Passes limit (onStore (Store.remove key)) (ledger.live.contains key)
      (ledger.remove key) :=
  passes_onStore .flag (fun _ _ => StoreAnswer.flag.inj) (.remove key) nofun rfl rfl

theorem passes_get (key : EntityId) :
    ledger.Passes limit (onStore (Store.get key)) (ledger.payload? key) ledger :=
  passes_onStore .payload (fun _ _ => StoreAnswer.payload.inj) (.get key) nofun rfl rfl

theorem passes_offsetOf (key : EntityId) :
    ledger.Passes limit (onStore (Store.offsetOf key)) (ledger.offset? key) ledger :=
  passes_onStore .offset (fun _ _ => StoreAnswer.offset.inj) (.offsetOf key) nofun rfl rfl

theorem passes_length :
    ledger.Passes limit (onStore Store.length) ledger.live.size ledger :=
  passes_onStore .number (fun _ _ => StoreAnswer.number.inj) .length nofun rfl rfl

theorem passes_fileSize :
    ledger.Passes limit (onStore Store.fileSize) (image ledger.records).size ledger :=
  passes_onStore .number (fun _ _ => StoreAnswer.number.inj) .fileSize nofun rfl rfl

theorem passes_scan : ledger.Passes limit (onStore Store.scan) ledger.listing ledger :=
  passes_onStore .records (fun _ _ => StoreAnswer.records.inj) .scan nofun rfl rfl

end Ledger

/-! ## Operations on both sides -/

namespace RecordOperation

/-- The operation of the store. -/
def toStore : RecordOperation → StoreOperation
  | put key payload => .put key payload
  | remove key => .remove key
  | get key => .get key

/-- A payload that comes with the operation is not over the limit. -/
def Fits (limit : Nat) : RecordOperation → Prop
  | put _ payload => payload.size ≤ limit
  | _ => True

end RecordOperation

namespace PayloadMap

/-- The map after an operation. -/
def changed (payloads : PayloadMap) : RecordOperation → PayloadMap
  | .put key payload => payloads.insert key payload
  | .remove key => payloads.erase key
  | .get _ => payloads

namespace Agrees

variable {payloads : PayloadMap} {ledger : Ledger} {limit : Nat}
  (agrees : payloads.Agrees ledger)
  (recorded : ∀ key ∈ ledger.live, key ∈ keysOf ledger.records)
include agrees recorded

theorem changed {operation : RecordOperation} (fits : operation.Fits limit) :
    (payloads.changed operation).Agrees (ledger.apply limit operation.toStore).2 := by
  cases operation with
  | put key payload =>
      rw [RecordOperation.toStore, Ledger.apply, if_neg (Nat.not_lt_of_le fits)]
      exact agrees.put recorded key payload
  | remove key => exact agrees.remove key
  | get key => exact agrees

/-- Operations that fit are applied to the store and the map without a mismatch. -/
theorem passes_apply {operation : RecordOperation} (fits : operation.Fits limit) :
    ledger.Passes limit (payloads.apply operation) (payloads.changed operation)
      (ledger.apply limit operation.toStore).2 := by
  cases operation with
  | put key payload =>
      rw [RecordOperation.toStore, Ledger.apply, if_neg (Nat.not_lt_of_le fits)]
      exact (Ledger.passes_put fits).bind (Ledger.passes_pure _)
  | remove key =>
      exact (Ledger.passes_remove key).bind ((Ledger.passes_equal
        (contains_eq_of_mem (agrees.mem_iff recorded) key).symm _).bind (Ledger.passes_pure _))
  | get key =>
      exact (Ledger.passes_get key).bind ((Ledger.passes_equal (agrees key).symm _).bind
        (Ledger.passes_pure _))

end Agrees

/-! ## Comparisons -/

theorem passes_checkPayloads {ledger : Ledger} {limit : Nat}
    {entries : List (EntityId × ByteArray)}
    (held : ∀ entry ∈ entries, ledger.payload? entry.1 = some entry.2) :
    ledger.Passes limit (checkPayloads entries) () ledger := by
  induction entries with
  | nil => exact Ledger.passes_pure ()
  | cons entry rest induction =>
      rcases List.forall_mem_cons.mp held with ⟨here, later⟩
      exact (Ledger.passes_get entry.1).bind ((Ledger.passes_equal here _).bind
        (induction later))

/-- Without shadowed records every record is led to, where the one before it ends. -/
theorem passes_checkPacking {ledger : Ledger} {limit : Nat} (before : List Record)
    {rest : List Record} (split : ledger.records = before ++ rest)
    (unshadowed : ∀ key, ledger.Unshadowed key)
    (within : AllWithin maxPayloadSize ledger.records) :
    ledger.Passes limit (checkPacking (image before).size
      (Ledger.listingFrom ledger.live (image before).size rest)) () ledger := by
  induction rest generalizing before with
  | nil => exact Ledger.passes_pure ()
  | cons record rest induction =>
      have member : record ∈ ledger.records := by
        rw [split]
        exact List.mem_append_cons_self
      have inUse := (unshadowed record.key).used (List.mem_map_of_mem member)
      have last : record.key ∉ keysOf rest := by
        intro again
        have once := (unshadowed record.key).once
        have positive := List.count_pos_iff.mpr again
        rw [split, keysOf_append, keysOf_cons, List.count_append, List.count_cons_self] at once
        omega
      have place : ledger.offset? record.key = some (image before).size := by
        rw [Ledger.offset?, if_pos inUse, split, lastOffset?_split rfl last, Nat.zero_add]
      have ends : RecordInfo.recordEnd ⟨record.key, (image before).size,
          UInt32.ofNat record.payload.size⟩ = (image (before ++ [record])).size := by
        rw [RecordInfo.recordEnd, Record.toNat_length (within record member),
          size_image_append, size_image_cons, Record.size_eq, image_nil]
        exact Nat.add_assoc ..
      have nextStart : (image before).size + record.size = (image (before ++ [record])).size := by
        rw [size_image_append, size_image_cons, image_nil]
        rfl
      have laterSplit : ledger.records = before ++ [record] ++ rest := by
        rw [split, List.append_assoc]
        rfl
      have later := induction (before ++ [record]) laterSplit
      rw [Ledger.listingFrom, if_pos ⟨inUse, last⟩, checkPacking, ends, nextStart]
      exact (Ledger.passes_equal rfl _).bind ((Ledger.passes_offsetOf record.key).bind
        ((Ledger.passes_equal place _).bind later))

/-- A map that agrees with a ledger without shadowed records is what the store holds. -/
theorem Agrees.passes_verify {payloads : PayloadMap} {ledger : Ledger} {limit : Nat}
    (agrees : payloads.Agrees ledger)
    (recorded : ∀ key ∈ ledger.live, key ∈ keysOf ledger.records)
    (unshadowed : ∀ key, ledger.Unshadowed key)
    (within : AllWithin maxPayloadSize ledger.records) :
    ledger.Passes limit payloads.verify () ledger := by
  have sameCount := (size_eq_of_mem (agrees.mem_iff recorded)).symm
  have held : ∀ entry ∈ payloads.toList, ledger.payload? entry.1 = some entry.2 := by
    intro entry member
    rw [← agrees]
    exact Std.ExtTreeMap.mem_toList_iff_getElem?_eq_some.mp member
  have samePackedSize := (agrees.packedSize_eq unshadowed).symm
  have packed : ledger.Passes limit (checkPacking 0 ledger.listing) () ledger :=
    passes_checkPacking [] rfl unshadowed within
  exact Ledger.passes_length.bind ((Ledger.passes_equal sameCount _).bind
    ((passes_checkPayloads held).bind (Ledger.passes_fileSize.bind
      ((Ledger.passes_equal samePackedSize _).bind (Ledger.passes_scan.bind packed)))))

end PayloadMap

/-! ## Checks on faithful media -/

/-- The medium refused an operation of the check. -/
def Mismatch.IsRefusal : Mismatch → Prop
  | refused failure => failure.IsRefusal
  | _ => False

variable {δ α : Type} [ByteDevice δ] [FaithfulDevice δ]

namespace CheckM

/-- A store on a faithful device stands for the one in memory. -/
def reflection (δ : Type) [ByteDevice δ] [FaithfulDevice δ] :
    Reflection (Store δ) (Store Memory) Mismatch where
  Sound store := FaithfulDevice.Sound store.device
  view := Store.inMemory
  Refusal := Mismatch.IsRefusal

/-- A check on a faithful device does what the check in memory does. -/
abbrev Follows (check : CheckM δ α) (reference : CheckM Memory α) : Prop :=
  (reflection δ).Follows check reference

theorem follows_onStore {action : StoreM δ α} {reference : StoreM Memory α}
    (follows : Store.Follows action reference) :
    Follows (onStore action) (onStore reference) := by
  intro store sound
  cases ran : action store with
  | ok value after =>
      rcases follows.ok sound ran with ⟨afterSound, memoryRan⟩
      simp only [onStore, ran]
      refine ⟨afterSound, ?_⟩
      change reference ((reflection δ).view store) = _ at memoryRan
      rw [memoryRan]
      rfl
  | error failure after =>
      rcases follows.error sound ran with ⟨afterSound, refused | memoryRan⟩
      · simp only [onStore, ran]
        exact ⟨afterSound, .inl refused⟩
      · simp only [onStore, ran]
        refine ⟨afterSound, .inr ?_⟩
        change reference ((reflection δ).view store) = _ at memoryRan
        rw [memoryRan]
        rfl

theorem follows_require (condition : Bool) (mismatch : Mismatch) :
    Follows (δ := δ) (require condition mismatch) (require condition mismatch) := by
  intro store sound
  cases condition with
  | true => exact ⟨sound, rfl⟩
  | false => exact ⟨sound, .inr rfl⟩

end CheckM

namespace PayloadMap

theorem follows_apply (payloads : PayloadMap) (operation : RecordOperation) :
    Follows (δ := δ) (payloads.apply operation) (payloads.apply operation) := by
  cases operation with
  | put key payload =>
      exact (follows_onStore (Store.follows_put key payload)).bind fun _ =>
        Reflection.follows_pure _
  | remove key =>
      exact (follows_onStore (Store.follows_remove key)).bind fun _ =>
        (follows_require _ _).bind fun _ => Reflection.follows_pure _
  | get key =>
      exact (follows_onStore (Store.follows_get key)).bind fun _ =>
        (follows_require _ _).bind fun _ => Reflection.follows_pure _

theorem follows_checkPayloads (entries : List (EntityId × ByteArray)) :
    Follows (δ := δ) (checkPayloads entries) (checkPayloads entries) := by
  induction entries with
  | nil => exact Reflection.follows_pure ()
  | cons entry rest induction =>
      exact (follows_onStore (Store.follows_get entry.1)).bind fun _ =>
        (follows_require _ _).bind fun _ => induction

theorem follows_checkPacking (start : Nat) (infos : List RecordInfo) :
    Follows (δ := δ) (checkPacking start infos) (checkPacking start infos) := by
  induction infos generalizing start with
  | nil => exact Reflection.follows_pure ()
  | cons info rest induction =>
      exact (follows_require _ _).bind fun _ =>
        (follows_onStore (Store.follows_offsetOf info.key)).bind fun _ =>
          (follows_require _ _).bind fun _ => induction info.recordEnd

theorem follows_verify (payloads : PayloadMap) :
    Follows (δ := δ) payloads.verify payloads.verify :=
  (follows_onStore Store.follows_length).bind fun _ =>
    (follows_require _ _).bind fun _ =>
      (follows_checkPayloads _).bind fun _ =>
        (follows_onStore Store.follows_fileSize).bind fun _ =>
          (follows_require _ _).bind fun _ =>
            (follows_onStore Store.follows_scan).bind fun _ => follows_checkPacking 0 _

end PayloadMap

end PackedRecords
