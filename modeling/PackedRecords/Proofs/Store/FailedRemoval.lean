import PackedRecords.Proofs.Store.Opening
import PackedRecords.Proofs.Store.Reading

/-! # Failed removals

A removal gives up the index entry before it reads the length of the record. If the
length cannot be read, or is not acceptable, the record stays in the file, but the store
no longer knows of its key: it says that there is no such record, and a second attempt
finds nothing to remove.
-/

namespace PackedRecords

namespace Store

variable {δ : Type} [Medium δ] [ReadsInPlace δ] {key : EntityId} {offset : Nat}
  {store ready : Store δ} {failure : StoreError}

/-- A length that is not found leaves all bytes, and no index would have helped. -/
theorem exists_device_of_readValidLength_error
    (unmeasured : readValidLength offset store = .error failure ready) :
    ∃ device : δ, Medium.contents device = Medium.contents store.device ∧
      ∀ index, readValidLength offset { store with index } =
        .error failure { store with device, index } := by
  have kept := ReadsInPlace.contents_readInto (offset + keySize) lengthSize store.device
  rw [readValidLength_eq] at unmeasured
  cases read : ByteDevice.readInto (offset + keySize) lengthSize store.device with
  | error reason device =>
      simp only [read] at unmeasured kept
      cases unmeasured
      refine ⟨device, kept, fun index => ?_⟩
      rw [readValidLength_eq]
      simp only [read]
      rfl
  | ok bytes device =>
      simp only [read] at unmeasured kept
      cases validated : validateLength (readBigEndian32 bytes 0) store.config.payloadLimit with
      | ok length =>
          rw [validated] at unmeasured
          cases unmeasured
      | error fault =>
          rw [validated] at unmeasured
          cases unmeasured
          refine ⟨device, kept, fun index => ?_⟩
          rw [readValidLength_eq]
          simp only [read, validated]
          rfl

/-- A removal that does not find the length of the record has given up the index entry
and has done nothing else. -/
theorem remove_of_unmeasured (isOpen : store.isOpen = true)
    (found : store.index[key]? = some offset)
    (unmeasured : readValidLength offset store = .error failure ready) :
    ∃ device : δ, Medium.contents device = Medium.contents store.device ∧
      remove key store =
        .error failure { store with device, index := store.index.erase key } := by
  rcases exists_device_of_readValidLength_error unmeasured with ⟨device, kept, failed⟩
  refine ⟨device, kept, ?_⟩
  rcases store with ⟨_, index, config, stats, _⟩
  cases isOpen
  rw [remove, bind_of_ok (requireOpen_run _), bind_of_ok (offset?_run key _), found]
  simp only []
  rw [bind_of_ok (reindex_run _ _), bind_of_error (failed (index.erase key))]

end Store

/-! ## What is left to be found -/

namespace Index

theorem getElem?_erase (index : Index) (key other : EntityId) :
    (index.erase key)[other]? = if other = key then none else index[other]? := by
  rw [Std.ExtTreeMap.getElem?_erase]
  simp only [Std.LawfulEqCmp.compare_eq_iff_eq, eq_comm (a := key)]

theorem size_erase_of_found {index : Index} {key : EntityId} {offset : Nat}
    (found : index[key]? = some offset) : (index.erase key).size = index.size - 1 := by
  have inUse : index.contains key = true := by
    rw [← Std.ExtTreeMap.isSome_getElem?_eq_contains, found]
    rfl
  rw [Std.ExtTreeMap.size_erase, if_pos inUse]

end Index

section Found

variable {δ : Type} [ByteDevice δ] {store : Store δ} (isOpen : store.isOpen = true)
include isOpen

theorem StoreOperation.outcome_contains (key : EntityId) :
    (contains key).outcome store = (.ok (.flag (store.index.contains key)), store) := by
  rcases store with ⟨device, index, config, stats, _⟩
  cases isOpen
  rfl

theorem StoreOperation.outcome_offsetOf (key : EntityId) :
    (offsetOf key).outcome store = (.ok (.offset store.index[key]?), store) := by
  rcases store with ⟨device, index, config, stats, _⟩
  cases isOpen
  rfl

theorem StoreOperation.outcome_length :
    length.outcome store = (.ok (.number store.index.size), store) := by
  rcases store with ⟨device, index, config, stats, _⟩
  cases isOpen
  rfl

theorem StoreOperation.outcome_keys :
    keys.outcome store = (.ok (.keys store.index.keys), store) := by
  rcases store with ⟨device, index, config, stats, _⟩
  cases isOpen
  rfl

theorem StoreOperation.outcome_remove_of_missing {key : EntityId}
    (missing : store.index[key]? = none) :
    (remove key).outcome store = (.ok (.flag false), store) := by
  rcases store with ⟨device, index, config, stats, _⟩
  cases isOpen
  have ran : Store.remove key (⟨device, index, config, stats, true⟩ : Store δ) =
      .ok false ⟨device, index, config, stats, true⟩ := by
    rw [Store.remove, bind_of_ok (Store.requireOpen_run _),
      bind_of_ok (Store.offset?_run key _), missing]
    rfl
  rw [outcome, run, bind_of_ok ran, pure_run]

end Found

/-- A removal fails because the length of the record cannot be read or is not acceptable.
No byte has changed then, and nothing about other keys, but the key has lost its index
entry: the store neither finds nor counts nor lists it any more, and removing it again
answers that there is nothing to remove. -/
theorem failed_removal {δ : Type} [Medium δ] [ReadsInPlace δ] {store ready : Store δ}
    (isOpen : store.isOpen = true) {key : EntityId} {offset : Nat}
    (found : store.index[key]? = some offset) {failure : StoreError}
    (unmeasured : Store.readValidLength offset store = .error failure ready) :
    ∃ after : Store δ, (StoreOperation.remove key).outcome store = (.error failure, after) ∧
      after = { store with device := after.device, index := store.index.erase key } ∧
      Medium.contents after.device = Medium.contents store.device ∧
      (∀ other, ((StoreOperation.contains other).outcome after).1 =
        if other = key then .ok (.flag false)
        else ((StoreOperation.contains other).outcome store).1) ∧
      (∀ other, ((StoreOperation.offsetOf other).outcome after).1 =
        if other = key then .ok (.offset none)
        else ((StoreOperation.offsetOf other).outcome store).1) ∧
      (StoreOperation.length.outcome after).1 = .ok (.number (store.index.size - 1)) ∧
      (StoreOperation.keys.outcome after).1 = .ok (.keys (store.index.erase key).keys) ∧
      (StoreOperation.remove key).outcome after = (.ok (.flag false), after) := by
  rcases Store.remove_of_unmeasured isOpen found unmeasured with ⟨device, kept, failed⟩
  let after : Store δ := { store with device, index := store.index.erase key }
  have afterOpen : after.isOpen = true := isOpen
  refine ⟨after, ?_, rfl, kept, ?_, ?_, ?_, ?_, ?_⟩
  · rw [StoreOperation.outcome, StoreOperation.run, bind_of_error failed]
  · intro other
    rw [StoreOperation.outcome_contains afterOpen, StoreOperation.outcome_contains isOpen,
      ← Std.ExtTreeMap.isSome_getElem?_eq_contains,
      ← Std.ExtTreeMap.isSome_getElem?_eq_contains, Index.getElem?_erase]
    split <;> rfl
  · intro other
    rw [StoreOperation.outcome_offsetOf afterOpen, StoreOperation.outcome_offsetOf isOpen,
      Index.getElem?_erase]
    split <;> rfl
  · rw [StoreOperation.outcome_length afterOpen, Index.size_erase_of_found found]
  · rw [StoreOperation.outcome_keys afterOpen]
  · have missing : after.index[key]? = none := by
      rw [Index.getElem?_erase, if_pos rfl]
    exact StoreOperation.outcome_remove_of_missing afterOpen missing

/-- A store of one record on a device that refuses to read into a buffer. -/
def unreadStore : Store (Faulty Memory) :=
  (Store.opened {} [⟨.replicate 1, ⟨#[97, 98, 99]⟩⟩]).withDevice
    ⟨⟨image [⟨.replicate 1, ⟨#[97, 98, 99]⟩⟩]⟩, [(.readInto, 0)]⟩

/-- The length cannot be read. The record stays where it is, but its key is gone. -/
theorem failed_removal_unread :
    ∃ after : Store (Faulty Memory), (StoreOperation.remove (.replicate 1)).outcome unreadStore =
        (.error (.device (Faulty.refusal .readInto)), after) ∧
      Medium.contents after.device = some (image [⟨.replicate 1, ⟨#[97, 98, 99]⟩⟩]) ∧
      (StoreOperation.length.outcome after).1 = .ok (.number 0) ∧
      (StoreOperation.remove (.replicate 1)).outcome after = (.ok (.flag false), after) := by
  have found : unreadStore.index[EntityId.replicate 1]? = some 0 := by cbv
  have unmeasured : Store.readValidLength 0 unreadStore =
      .error (.device (Faulty.refusal .readInto)) unreadStore := by cbv
  rcases failed_removal rfl found unmeasured with
    ⟨after, failed, _, kept, _, _, count, _, retried⟩
  exact ⟨after, failed, kept, count, retried⟩

/-- A record is altered from outside so that its length is negative. The removal fails
for that, after which the key is not there any more, although no byte has changed. -/
theorem failed_removal_forgets :
    ∃ stored altered after : Store Memory,
      (StoreOperation.put (.replicate 1) ⟨#[97, 98, 99]⟩).outcome (Store.opened {} []) =
        (.ok .done, stored) ∧
      altered = stored.withDevice (Medium.alter (overwrite · 16 ⟨#[0xff]⟩) stored.device) ∧
      (StoreOperation.runAll [.contains (.replicate 1), .offsetOf (.replicate 1), .length, .keys]
          altered).1 =
        [.ok (.flag true), .ok (.offset (some 0)), .ok (.number 1),
          .ok (.keys [.replicate 1])] ∧
      (StoreOperation.remove (.replicate 1)).outcome altered =
        (.error (.corruptRecord 0 (.negativeLength 0xff000003)), after) ∧
      after.device = altered.device ∧
      (StoreOperation.runAll [.contains (.replicate 1), .offsetOf (.replicate 1), .length, .keys,
          .remove (.replicate 1)] after).1 =
        [.ok (.flag false), .ok (.offset none), .ok (.number 0), .ok (.keys []),
          .ok (.flag false)] := by
  let stored := ((StoreOperation.put (.replicate 1) ⟨#[97, 98, 99]⟩).outcome
    (Store.opened {} [])).2
  let altered := stored.withDevice (Medium.alter (overwrite · 16 ⟨#[0xff]⟩) stored.device)
  let after := ((StoreOperation.remove (.replicate 1)).outcome altered).2
  have put : ((StoreOperation.put (.replicate 1) ⟨#[97, 98, 99]⟩).outcome
      (Store.opened {} [])).1 = .ok .done := by decide +kernel
  have removed : ((StoreOperation.remove (.replicate 1)).outcome altered).1 =
      .error (.corruptRecord 0 (.negativeLength 0xff000003)) := by decide +kernel
  exact ⟨stored, altered, after, Prod.ext put rfl, rfl, by decide +kernel,
    Prod.ext removed rfl, by decide +kernel, by decide +kernel⟩

end PackedRecords
