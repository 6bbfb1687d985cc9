import PackedRecords.Proofs.Cache.Outcomes

/-! # What a cache does

Each operation of a cache taken apart: what it did to the store and to the active
entries if it succeeded, and why not if it failed. Hooks are told but change nothing.
-/

namespace PackedRecords

namespace EntityCache

variable {δ V B R : Type} [ByteDevice δ] {codec : EntryCodec V B} {cache after : EntityCache δ V}
  {key : EntityId} {baseline : B}

/-- The store once an entry has been written, if it had to be. -/
def Written (codec : EntryCodec V B) (key : EntityId) (entry : Entry V)
    (store final : Store δ) : Prop :=
  entry.dirty = false ∧ final = store ∨
    entry.dirty = true ∧ save codec key entry store = .ok () final

theorem written_of_writeBack {entry : Entry V} {store final : Store δ}
    (ran : writeBack codec key entry store = .ok () final) : Written codec key entry store final := by
  cases dirty : entry.dirty with
  | false =>
      rw [writeBack_clean dirty] at ran
      cases ran
      exact .inl ⟨dirty, rfl⟩
  | true =>
      rw [writeBack_dirty dirty] at ran
      exact .inr ⟨dirty, ran⟩

/-! ## Operations -/

theorem activate_ok {entry : Entry V}
    (ran : activate codec key baseline cache = .ok entry after) :
    after.active = cache.active.insert key entry ∧
      ((∃ old, cache.active[key]? = some old ∧ entry = realigned codec key baseline old ∧
          after.store = cache.store) ∨
        cache.active[key]? = none ∧
          load codec key baseline cache.store = .ok entry after.store) := by
  cases live : cache.active[key]? with
  | some old =>
      rw [activate_live live] at ran
      cases ran
      exact ⟨rfl, .inl ⟨old, rfl, rfl, rfl⟩⟩
  | none =>
      rw [activate_inactive live] at ran
      cases loaded : load codec key baseline cache.store with
      | error failure store =>
          rw [loaded] at ran
          cases ran
      | ok found store =>
          rw [loaded] at ran
          cases ran
          exact ⟨rfl, .inr ⟨rfl, rfl⟩⟩

theorem deactivate_ok {written : Bool}
    (ran : deactivate codec key cache = .ok written after) :
    cache.active[key]? = none ∧ after = cache ∨
      ∃ entry, cache.active[key]? = some entry ∧
        Written codec key entry cache.store after.store ∧
        after.active = cache.active.erase key := by
  cases live : cache.active[key]? with
  | none =>
      rw [deactivate_inactive live] at ran
      cases ran
      exact .inl ⟨rfl, rfl⟩
  | some entry =>
      rw [deactivate_live live] at ran
      cases saved : writeBack codec key entry cache.store with
      | error failure store =>
          rw [saved] at ran
          cases ran
      | ok done store =>
          rw [saved] at ran
          cases ran
          exact .inr ⟨entry, rfl, written_of_writeBack saved, rfl⟩

/-- A change that succeeds offline has loaded an entry and written it back. -/
theorem mutate_inactive_ok (inactive : cache.active[key]? = none)
    {change : Entry V → R × Entry V} {result : R}
    (ran : mutate codec key baseline change cache = .ok result after) :
    ∃ entry loaded final, load codec key baseline cache.store = .ok entry loaded ∧
      writeBack codec key (change entry).2 loaded = .ok () final ∧
      result = (change entry).1 ∧ after = { cache with store := final } := by
  rw [mutate_inactive inactive] at ran
  cases loaded : load codec key baseline cache.store with
  | error failure middle =>
      rw [loaded] at ran
      cases ran
  | ok entry middle =>
      rw [loaded] at ran
      cases written : writeBack codec key (change entry).2 middle with
      | error failure final =>
          simp only [written] at ran
          cases ran
      | ok done final =>
          simp only [written] at ran
          cases ran
          exact ⟨entry, middle, final, rfl, written, rfl, rfl⟩

/-- A change that fails offline although an entry was loaded has failed to write it back. -/
theorem mutate_inactive_error (inactive : cache.active[key]? = none) {entry : Entry V}
    {store : Store δ} (loaded : load codec key baseline cache.store = .ok entry store)
    {change : Entry V → R × Entry V} {failure : StoreError}
    (ran : mutate codec key baseline change cache = .error failure after) :
    writeBack codec key (change entry).2 store = .error failure after.store := by
  rw [mutate_inactive inactive, loaded] at ran
  cases written : writeBack codec key (change entry).2 store with
  | ok done final =>
      simp only [written] at ran
      cases ran
  | error reason final =>
      simp only [written] at ran
      cases ran
      rfl

theorem mutate_ok {change : Entry V → R × Entry V} {result : R}
    (ran : mutate codec key baseline change cache = .ok result after) :
    (∃ entry, cache.active[key]? = some entry ∧ after.store = cache.store ∧
        after.active = cache.active.insert key (change entry).2) ∨
      cache.active[key]? = none ∧ after.active = cache.active ∧
        ∃ entry middle, load codec key baseline cache.store = .ok entry middle ∧
          Written codec key (change entry).2 middle after.store := by
  cases live : cache.active[key]? with
  | some entry =>
      rw [mutate_live live] at ran
      cases ran
      exact .inl ⟨entry, rfl, rfl, rfl⟩
  | none =>
      rcases mutate_inactive_ok live ran with ⟨entry, middle, final, loaded, saved, rfl, rfl⟩
      exact .inr ⟨rfl, rfl, entry, middle, loaded, written_of_writeBack saved⟩

theorem peek_ok {peeked : Peeked V}
    (ran : peek codec key baseline cache = .ok peeked after) :
    after.active = cache.active ∧
      ((∃ entry, cache.active[key]? = some entry ∧ peeked.value = entry.value ∧
          after.store = cache.store) ∨
        cache.active[key]? = none ∧ ∃ entry, peeked.value = entry.value ∧
          load codec key baseline cache.store = .ok entry after.store) := by
  cases live : cache.active[key]? with
  | some entry =>
      rw [peek_live live] at ran
      cases ran
      exact ⟨rfl, .inl ⟨entry, rfl, rfl, rfl⟩⟩
  | none =>
      rw [peek_inactive live] at ran
      cases loaded : load codec key baseline cache.store with
      | error failure store =>
          rw [loaded] at ran
          cases ran
      | ok entry store =>
          rw [loaded] at ran
          cases ran
          exact ⟨rfl, .inr ⟨rfl, entry, rfl, rfl⟩⟩

theorem peek_error {failure : StoreError}
    (ran : peek codec key baseline cache = .error failure after) :
    cache.active[key]? = none ∧
      ∃ store, load codec key baseline cache.store = .error failure store := by
  cases live : cache.active[key]? with
  | some entry =>
      rw [peek_live live] at ran
      cases ran
  | none =>
      rw [peek_inactive live] at ran
      cases loaded : load codec key baseline cache.store with
      | ok entry store =>
          rw [loaded] at ran
          cases ran
      | error reason store =>
          rw [loaded] at ran
          cases ran
          exact ⟨rfl, store, rfl⟩

/-- An operation that answers has run to its end. -/
theorem run_of_outcome {operation : CacheOperation V B R} {answer : CacheAnswer V R}
    (answered : (operation.outcome codec cache).1 = .ok answer) :
    operation.run codec cache = .ok answer (operation.outcome codec cache).2 := by
  rw [CacheOperation.outcome] at answered ⊢
  cases ran : operation.run codec cache with
  | ok other final =>
      rw [ran] at answered
      cases answered
      rfl
  | error failure final =>
      rw [ran] at answered
      cases answered

theorem exists_of_served {operation : CacheOperation V B R}
    {rest : List (CacheOperation V B R)}
    (served : ∀ failure, .error failure ∉
      (CacheOperation.runAll codec (operation :: rest) cache).1) :
    (∃ answer, operation.run codec cache = .ok answer (operation.outcome codec cache).2) ∧
      ∀ failure, .error failure ∉
        (CacheOperation.runAll codec rest (operation.outcome codec cache).2).1 := by
  rw [CacheOperation.runAll] at served
  constructor
  · cases answered : (operation.outcome codec cache).1 with
    | ok answer => exact ⟨answer, run_of_outcome answered⟩
    | error failure =>
        simp only [answered] at served
        exact absurd List.mem_cons_self (served failure)
  · intro failure member
    exact served failure (List.mem_cons_of_mem _ member)

/-- The entry that a change of an entity runs on: the live one or one that is loaded. -/
def subject? (codec : EntryCodec V B) (key : EntityId) (baseline : B)
    (cache : EntityCache δ V) : Option (Entry V) :=
  match cache.active[key]? with
  | some entry => some entry
  | none =>
      match load codec key baseline cache.store with
      | .ok entry _ => some entry
      | .error _ _ => none

theorem subject?_of_live {entry : Entry V} (found : cache.active[key]? = some entry) :
    cache.subject? codec key baseline = some entry := by
  rw [subject?, found]

theorem subject?_of_loaded {entry : Entry V} {store : Store δ}
    (inactive : cache.active[key]? = none)
    (loaded : load codec key baseline cache.store = .ok entry store) :
    cache.subject? codec key baseline = some entry := by
  rw [subject?, inactive]
  simp only [loaded]

theorem exists_subject_of_mutate {change : Entry V → R × Entry V} {result : R}
    (ran : mutate codec key baseline change cache = .ok result after) :
    ∃ subject, cache.subject? codec key baseline = some subject := by
  rcases mutate_ok ran with ⟨entry, found, _⟩ | ⟨inactive, _, entry, middle, loaded, _⟩
  · exact ⟨entry, subject?_of_live found⟩
  · exact ⟨entry, subject?_of_loaded inactive loaded⟩

end EntityCache

end PackedRecords
