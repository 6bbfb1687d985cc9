import PackedRecords.Proofs.Store.Shadowing

/-! # Opening a medium again

The records alone say whether a medium can be opened again. Where no record is shadowed
they also say everything about the store: opening again finds the index that was held
before, so that every question is answered as before.
-/

namespace PackedRecords

/-! ## Questions -/

/-- The operation only looks at the store. -/
def StoreOperation.IsQuery : StoreOperation → Prop
  | .get _ | .contains _ | .offsetOf _ | .length | .isEmpty | .keys | .fileSize | .scan => True
  | _ => False

/-- Limits do not matter to questions. -/
theorem Ledger.apply_of_isQuery {query : StoreOperation} (isQuery : query.IsQuery)
    (ledger : Ledger) (limit other : Nat) :
    ledger.apply limit query = ledger.apply other query := by
  cases query <;> first | rfl | cases isQuery

/-! ## Sessions without shadowed records -/

namespace LedgerSession.Accounts

variable {δ : Type} [Medium δ] [FaithfulMedium δ] {account : LedgerSession}
  {session after : Session δ} {config : Config} {answer : Except StoreError Unit}
  (accounts : account.Accounts session)
  (ran : session.reopen config = (answer, after))
  (served : ∀ failure, answer = .error failure → ¬failure.IsRefusal)
include accounts ran served

/-- A limit that allows every payload lets the medium be opened. -/
theorem reopen_of_allWithin (within : AllWithin config.payloadLimit account.records) :
    answer = .ok () ∧
      Accounts ⟨.ofRecords account.records, .working config.payloadLimit⟩ after := by
  cases answer with
  | ok =>
      exact ⟨rfl, (accounts.reopen_ok ran).2⟩
  | error failure =>
      have failed := (accounts.reopen_error ran (served failure rfl)).1
      rw [openingFailure?_eq_none_iff.mpr within] at failed
      cases failed

/-- A limit that does not is reported at the first payload over it. -/
theorem reopen_of_not_allWithin (exceeds : ¬AllWithin config.payloadLimit account.records) :
    (∃ before record rest, account.records = before ++ record :: rest ∧
      AllWithin config.payloadLimit before ∧ config.payloadLimit < record.payload.size ∧
      answer = .error (.corruptRecord (image before).size
        (.lengthOverLimit (UInt32.ofNat record.payload.size) config.payloadLimit))) ∧
      Accounts ⟨account.ledger, .vacant⟩ after := by
  cases answer with
  | ok => exact absurd (accounts.reopen_ok ran).1 exceeds
  | error failure =>
      rcases accounts.reopen_error ran (served failure rfl) with ⟨failed, afterAccounts⟩
      rcases exists_of_openingFailure? failed with
        ⟨before, record, rest, split, within, large, same⟩
      rw [Nat.zero_add] at same
      exact ⟨⟨before, record, rest, split, within, large, by rw [same]⟩, afterAccounts⟩

end LedgerSession.Accounts

/-! ## Stores that restore others -/

section Restoring

variable {δ : Type} [ByteDevice δ] [FaithfulDevice δ]

theorem Ledger.Describes.answer_of_isQuery {ledger : Ledger} {store : Store δ}
    (describes : ledger.Describes store) (sound : FaithfulDevice.Sound store.device)
    {query : StoreOperation} (isQuery : query.IsQuery)
    (served : ∀ failure, (query.outcome store).1 = .error failure → ¬failure.IsRefusal)
    (limit : Nat) : (query.outcome store).1 = (ledger.apply limit query).1 := by
  have notClose : query ≠ .close := by
    intro same
    rw [same] at isQuery
    exact isQuery
  rcases StoreOperation.outcome_inMemory sound served with ⟨_, reflected⟩
  rcases (describes_inMemory.mpr describes).outcome_eq notClose with ⟨after, outcome, _⟩
  rw [reflected] at outcome
  rw [apply_of_isQuery isQuery ledger limit store.inMemory.config.payloadLimit]
  exact (Prod.mk.inj outcome).1

/-- The store that is found leads to the same offsets as the one that was held, and
answers every question as that one did while it was open, as long as no medium refuses
it. -/
structure Store.Restores (held found : Store δ) : Prop where
  index : found.index = held.index
  answers : held.isOpen = true → ∀ query : StoreOperation, query.IsQuery →
    (∀ failure, (query.outcome held).1 = .error failure → ¬failure.IsRefusal) →
    (∀ failure, (query.outcome found).1 = .error failure → ¬failure.IsRefusal) →
    (query.outcome found).1 = (query.outcome held).1

/-- A store is restored by every store that the same ledger describes. -/
theorem Ledger.Describes.restores {ledger : Ledger} {held found : Store δ}
    (heldDescribes : ledger.Describes { held with isOpen := true })
    (foundDescribes : ledger.Describes found)
    (heldSound : FaithfulDevice.Sound held.device)
    (foundSound : FaithfulDevice.Sound found.device) : Store.Restores held found where
  index := by
    apply Std.ExtTreeMap.ext_getElem?
    intro key
    rw [foundDescribes.index]
    exact (heldDescribes.index key).symm
  answers isOpen query isQuery heldServed foundServed := by
    have same : { held with isOpen := true } = held := by
      rw [← isOpen]
    rw [same] at heldDescribes
    rw [foundDescribes.answer_of_isQuery foundSound isQuery foundServed 0,
      heldDescribes.answer_of_isQuery heldSound isQuery heldServed 0]

end Restoring

/-! ## Opening again -/

variable {δ : Type} [Medium δ] [FaithfulMedium δ]

/-- The medium of a session holds records that every other opening leaves there. A
limit that allows their payloads brings back the store that was open before, any other
limit is refused. -/
structure Session.Keeps (session : Session δ) (records : List Record) : Prop where
  contents : FaithfulDevice.contents session.device = image records
  leaves : ∀ {config answer after}, session.reopen config = (answer, after) →
    (∀ failure, answer = .error failure → ¬failure.IsRefusal) →
    FaithfulDevice.contents after.device = image records
  accepts : ∀ {config answer after}, session.reopen config = (answer, after) →
    (∀ failure, answer = .error failure → ¬failure.IsRefusal) →
    AllWithin config.payloadLimit records →
    ∃ found, answer = .ok () ∧ after = .opened found ∧
      (∀ key, found.index[key]? = lastOffset? key 0 records) ∧
      ∀ held, session = .opened held → Store.Restores held found
  rejects : ∀ {config answer after}, session.reopen config = (answer, after) →
    (∀ failure, answer = .error failure → ¬failure.IsRefusal) →
    ¬AllWithin config.payloadLimit records →
    ∃ before record rest, records = before ++ record :: rest ∧
      AllWithin config.payloadLimit before ∧ config.payloadLimit < record.payload.size ∧
      answer = .error (.corruptRecord (image before).size
        (.lengthOverLimit (UInt32.ofNat record.payload.size) config.payloadLimit))

namespace LedgerSession

/-- A store that is or was open is one that its ledger describes. -/
theorem Accounts.describes_opened {account : LedgerSession} {held : Store δ}
    (accounts : account.Accounts (.opened held)) :
    account.ledger.Describes { held with isOpen := true } := by
  rcases accounts with ⟨_, describes⟩
  apply Ledger.describes_inMemory.mp
  rcases held with ⟨device, index, config, stats, isOpen⟩
  cases describes with
  | shut _ _ describes => exact describes
  | working describes =>
      cases describes.isOpen
      exact describes

theorem Accounts.describes_of_isOpen {account : LedgerSession} {held : Store δ}
    (accounts : account.Accounts (.opened held)) (isOpen : held.isOpen = true) :
    account.ledger.Describes held := by
  have describes := accounts.describes_opened
  rwa [show { held with isOpen := true } = held by rw [← isOpen]] at describes

theorem Accounts.keeps {account : LedgerSession} {session : Session δ}
    (accounts : account.Accounts session)
    (unshadowed : ∀ key, account.ledger.Unshadowed key) :
    session.Keeps account.records where
  contents := accounts.contents
  leaves {config} answer after ran served := by
    by_cases within : AllWithin config.payloadLimit account.records
    · exact (accounts.reopen_of_allWithin ran served within).2.contents
    · exact (accounts.reopen_of_not_allWithin ran served within).2.contents
  accepts ran served within := by
    rcases accounts.reopen_of_allWithin ran served within with ⟨answered, afterAccounts⟩
    rcases afterAccounts.exists_store rfl with ⟨found, same, describes, _⟩
    refine ⟨found, answered, same, ?_, ?_⟩
    · intro key
      rw [describes.index, Ledger.offset?_ofRecords]
    · intro held heldSame
      subst heldSame same
      have heldDescribes := accounts.describes_opened
      have sameLedger := Ledger.ofRecords_eq_self unshadowed heldDescribes.recorded
      have foundDescribes : account.ledger.Describes found := by
        rw [← sameLedger]
        exact describes
      exact heldDescribes.restores foundDescribes accounts.sound afterAccounts.sound
  rejects ran served exceeds := (accounts.reopen_of_not_allWithin ran served exceeds).1

/-- A run from records of distinct keys leads to records of distinct keys, which every
other opening of the medium keeps. -/
theorem Accounts.keeps_runAll {records : List Record} {limit : Nat} {session : Session δ}
    (accounts : Accounts ⟨.ofRecords records, .working limit⟩ session)
    (distinct : (keysOf records).Nodup) {steps : List SessionStep}
    (served : ∀ answer ∈ (session.runAll steps).1, ¬answer.IsRefusal) :
    ∃ left, AllWithin maxPayloadSize left ∧ (keysOf left).Nodup ∧
      (session.runAll steps).2.Keeps left := by
  have once := List.nodup_iff_count.mp distinct
  have unshadowed (key : EntityId) := runAll_unshadowed
    ⟨.ofRecords records, .working limit⟩ (Ledger.unshadowed_ofRecords (once key)) steps
  have afterAccounts := (accounts.runAll served).2
  refine ⟨_, afterAccounts.describes.within, ?_, afterAccounts.keeps unshadowed⟩
  exact List.nodup_iff_count.mpr fun key => (unshadowed key).once

end LedgerSession

end PackedRecords
