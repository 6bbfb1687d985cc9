import PackedRecords.Proofs.Cache.StoreCalls

/-! # What a codec stores

A codec need not store all of a value: the rest comes from a baseline when the value is
loaded. The part that it does store survives saving and loading, and no baseline touches
it. What a described store has under a key holds such a part.
-/

namespace PackedRecords

/-- The part of a value that a codec stores. -/
structure StoredPart {V B : Type} (codec : EntryCodec V B) (K : Type) where
  part : V → K
  /-- The value with another part. -/
  replace : K → V → V
  /-- The part of an entity without a record. -/
  blank : K
  replace_part : ∀ value, replace (part value) value = value
  part_replace : ∀ content value, part (replace content value) = content
  part_fresh : ∀ key baseline, part (codec.fresh key baseline) = blank
  part_reconcile : ∀ key baseline value,
    part (codec.reconcile key baseline value) = part value
  restores : ∀ {value payload}, codec.encode value = .ok payload →
    payload.size ≤ maxPayloadSize → ∀ key baseline,
      ∃ restored, codec.decode key payload baseline = .ok restored ∧
        part restored = part value

namespace StoredPart

variable {V B K : Type} {codec : EntryCodec V B} (stored : StoredPart codec K)

/-- The part stands in a payload, or is blank without one. -/
def Holds (content : K) : Option ByteArray → Prop
  | none => content = stored.blank
  | some payload => ∃ value, codec.encode value = .ok payload ∧ stored.part value = content

variable {stored} {δ : Type} [ByteDevice δ] [FaithfulDevice δ] {ledger : Ledger}
  {store after : Store δ} (describes : ledger.Describes store)
  (sound : FaithfulDevice.Sound store.device) {key : EntityId} {baseline : B}

section Loading

variable {content : K} (holds : stored.Holds content (ledger.payload? key))
include describes holds

/-- What is held can be decoded. -/
theorem exists_loaded (baseline : B) :
    ∃ value, codec.loaded key baseline (ledger.payload? key) = .ok value ∧
      stored.part value = content := by
  cases found : ledger.payload? key with
  | none =>
      rw [found] at holds
      exact ⟨_, rfl, (stored.part_fresh key baseline).trans holds.symm⟩
  | some payload =>
      rw [found] at holds
      rcases holds with ⟨value, encoded, samePart⟩
      have short := Nat.le_trans (describes.size_payload?_le found) store.config.payloadLimit_le
      rcases stored.restores encoded short key baseline with ⟨restored, decoded, part⟩
      exact ⟨restored, decoded, part.trans samePart⟩

include sound

/-- Loading brings back what is held. -/
theorem load_ok {entry : Entry V}
    (ran : EntityCache.load codec key baseline store = .ok entry after) :
    stored.part entry.value = content ∧ entry.dirty = false ∧ ledger.Describes after ∧
      FaithfulDevice.Sound after.device ∧ after.config = store.config := by
  rcases exists_loaded describes holds baseline with ⟨value, loaded, part⟩
  rcases describes.load_ok sound ran with ⟨made, kept⟩
  rw [← Except.ok.inj (loaded.symm.trans made)]
  exact ⟨part, kept⟩

/-- Loading fails only where the device refuses. -/
theorem load_error {failure : StoreError}
    (ran : EntityCache.load codec key baseline store = .error failure after) :
    failure.IsRefusal := by
  rcases exists_loaded describes holds baseline with ⟨value, loaded, _⟩
  exact describes.load_error loaded sound ran

end Loading

/-- Saving makes the store hold the part of the entry. -/
theorem save_ok (describes : ledger.Describes store)
    (sound : FaithfulDevice.Sound store.device) {entry : Entry V}
    (ran : EntityCache.save codec key entry store = .ok () after) :
    ∃ payload, codec.encode entry.value = .ok payload ∧
      (ledger.put key payload).Describes after ∧ FaithfulDevice.Sound after.device ∧
      after.config = store.config := by
  cases encoded : codec.encode entry.value with
  | error failure =>
      rw [EntityCache.save_of_unencodable encoded] at ran
      cases ran
  | ok payload =>
      rw [EntityCache.save_of_encoded encoded] at ran
      exact ⟨payload, rfl, (describes.put_ok sound ran).2⟩

end StoredPart

end PackedRecords
