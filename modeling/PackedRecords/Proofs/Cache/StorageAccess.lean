import PackedRecords.Proofs.Cache.Locality
import PackedRecords.Proofs.Store.Counters
import PackedRecords.Proofs.Store.Opening
import PackedRecords.Roles.RoleSet

/-! # When a cache uses its store

What is done to an active entity stays in memory until its activity ends. An inactive
entity costs one `get`, and one `put` if it is changed offline and left dirty. So the
payloads that a store counts as written are the dirty entries that were given up.
-/

namespace PackedRecords

variable {δ V B R : Type} [ByteDevice δ]

/-! ## Payloads counted -/

namespace StoreOperation

variable {key : EntityId} {payload : ByteArray} {store : Store δ}

theorem writes_get (undisturbed : Spared StoreError.OfDevice [.get key] store) :
    (runAll [.get key] store).2.stats.writes = store.stats.writes := by
  have counted := Store.counts_get key store
  rw [Spared] at undisturbed
  rw [runAll, outcome, run] at undisturbed ⊢
  cases looked : Store.get key store with
  | ok found after =>
      rw [looked] at counted
      rw [bind_of_ok looked]
      exact counted
  | error failure after =>
      rw [looked] at counted
      rw [bind_of_error looked] at undisturbed ⊢
      exact counted.resolve_left (undisturbed failure List.mem_cons_self)

theorem writes_put (undisturbed : Spared StoreError.OfDevice [.put key payload] store) :
    (runAll [.put key payload] store).2.stats.writes =
      store.stats.writes + (succeeds (Store.put key payload store)).toNat := by
  have counted := Store.counts_put key payload store
  rw [Spared] at undisturbed
  rw [runAll, outcome, run] at undisturbed ⊢
  cases stored : Store.put key payload store with
  | ok done after =>
      rw [stored] at counted
      rw [bind_of_ok stored]
      exact counted
  | error failure after =>
      rw [stored] at counted
      rw [bind_of_error stored] at undisturbed ⊢
      exact counted.resolve_left (undisturbed failure List.mem_cons_self)

end StoreOperation

namespace EntityCache

open StoreOperation

variable {codec : EntryCodec V B} {key : EntityId} {entry : Entry V} {store : Store δ}

/-- Writing back is counted if there was something to write and it succeeded. -/
theorem writes_writeBack (undisturbed : Spared StoreError.OfDevice (codec.writeBackCalls key entry) store) :
    (runAll (codec.writeBackCalls key entry) store).2.stats.writes =
      store.stats.writes +
        (entry.dirty && succeeds (writeBack codec key entry store)).toNat := by
  cases dirty : entry.dirty with
  | false =>
      rw [EntryCodec.writeBackCalls_clean dirty]
      rfl
  | true =>
      rw [writeBack_dirty dirty]
      cases encoded : codec.encode entry.value with
      | error failure =>
          rw [EntryCodec.writeBackCalls_unencodable dirty encoded, save_of_unencodable encoded]
          rfl
      | ok payload =>
          rw [EntryCodec.writeBackCalls_encoded dirty encoded] at undisturbed ⊢
          rw [save_of_encoded encoded]
          exact writes_put undisturbed

/-- An offline change makes nothing active and ends no activity. -/
theorem active_mutate_offline {cache : EntityCache δ V} (inactive : cache.active[key]? = none)
    (baseline : B) (change : Entry V → R × Entry V) :
    (finalState (mutate codec key baseline change cache)).active = cache.active := by
  rw [mutate_inactive inactive]
  cases load codec key baseline cache.store with
  | error failure store => rfl
  | ok entry store =>
      simp only []
      cases writeBack codec key (change entry).2 store <;> rfl

end EntityCache

/-! ## Entries given up -/

namespace CacheOperation

open StoreOperation (Spared)

variable (codec : EntryCodec V B)

/-- The entry that an operation gives up: a live one whose activity is to end, or one
that was loaded to be changed offline, with the change made. -/
def givenUp? (operation : CacheOperation V B R) (cache : EntityCache δ V) : Option (Entry V) :=
  match operation with
  | deactivate key => cache.active[key]?
  | mutate key baseline change =>
      match cache.active[key]? with
      | some _ => none
      | none =>
          match EntityCache.load codec key baseline cache.store with
          | .ok entry _ => some (change entry).2
          | .error _ _ => none
  | activate _ _ | peek _ _ | reconcileAll _ | addHook => none

/-- The operation gives a dirty entry up, and succeeds. -/
def saves (operation : CacheOperation V B R) (cache : EntityCache δ V) : Bool :=
  (operation.givenUp? codec cache).any Entry.dirty && (operation.outcome codec cache).1.isOk

/-- How many operations of a run save an entry. -/
def savesOf (operations : List (CacheOperation V B R)) (cache : EntityCache δ V) : Nat :=
  match operations with
  | [] => 0
  | operation :: rest =>
      (operation.saves codec cache).toNat + savesOf rest (operation.outcome codec cache).2

variable {codec} {cache : EntityCache δ V} {key : EntityId} {entry : Entry V}

theorem saves_deactivate (live : cache.active[key]? = some entry) :
    (deactivate key : CacheOperation V B R).saves codec cache =
      (entry.dirty && succeeds (EntityCache.writeBack codec key entry cache.store)) := by
  rw [saves, givenUp?, outcome_deactivate, live, EntityCache.deactivate_live live]
  cases EntityCache.writeBack codec key entry cache.store <;> rfl

theorem saves_mutate_offline (inactive : cache.active[key]? = none) {baseline : B}
    {store : Store δ}
    (loaded : EntityCache.load codec key baseline cache.store = .ok entry store)
    (change : Entry V → R × Entry V) :
    (mutate key baseline change).saves codec cache =
      ((change entry).2.dirty &&
        succeeds (EntityCache.writeBack codec key (change entry).2 store)) := by
  rw [saves, givenUp?, outcome_mutate, inactive, EntityCache.mutate_inactive inactive, loaded]
  cases written : EntityCache.writeBack codec key (change entry).2 store <;>
    simp only [written] <;> rfl

/-- A payload is counted for every operation that saves an entry, and for no other. -/
theorem writes_outcome (operation : CacheOperation V B R) (cache : EntityCache δ V)
    (undisturbed : Spared StoreError.OfDevice (operation.storeCalls codec cache) cache.store) :
    (operation.outcome codec cache).2.store.stats.writes =
      cache.store.stats.writes + (operation.saves codec cache).toNat := by
  rw [makes_storeCalls operation cache]
  cases operation with
  | activate key baseline | peek key baseline =>
      rw [storeCalls] at undisturbed ⊢
      cases live : cache.active[key]? with
      | some entry => rfl
      | none =>
          rw [live] at undisturbed
          exact StoreOperation.writes_get undisturbed
  | deactivate key =>
      rw [storeCalls] at undisturbed ⊢
      cases live : cache.active[key]? with
      | some entry =>
          rw [live] at undisturbed
          rw [saves_deactivate live]
          exact EntityCache.writes_writeBack undisturbed
      | none =>
          rw [saves, givenUp?, live]
          rfl
  | mutate key baseline change =>
      rw [storeCalls] at undisturbed ⊢
      cases live : cache.active[key]? with
      | some entry =>
          rw [saves, givenUp?, live]
          rfl
      | none =>
          simp only [live] at undisturbed ⊢
          have read := EntityCache.store_of_load codec key baseline cache.store
          rw [← List.singleton_append] at undisturbed ⊢
          rcases undisturbed.append with ⟨reading, writing⟩
          have unwritten := StoreOperation.writes_get reading
          rw [StoreOperation.runAll_append, ← unwritten]
          cases loaded : EntityCache.load codec key baseline cache.store with
          | error failure middle =>
              rw [saves, givenUp?, live]
              simp only [loaded]
              rfl
          | ok entry middle =>
              rw [loaded] at read writing
              have middleLeft : middle =
                  (StoreOperation.runAll [.get key] cache.store).2 := read
              rw [← middleLeft] at writing
              rw [saves_mutate_offline live loaded, ← middleLeft]
              exact EntityCache.writes_writeBack writing
  | reconcileAll baseline => rfl
  | addHook => rfl

theorem writes_runAll (operations : List (CacheOperation V B R)) (cache : EntityCache δ V)
    (undisturbed : Spared StoreError.OfDevice (storeCallsOf codec operations cache) cache.store) :
    (runAll codec operations cache).2.store.stats.writes =
      cache.store.stats.writes + savesOf codec operations cache := by
  induction operations generalizing cache with
  | nil => rfl
  | cons operation rest induction =>
      rcases undisturbed.append with ⟨first, later⟩
      rw [← makes_storeCalls operation cache] at later
      rw [runAll, savesOf, ← Nat.add_assoc, ← writes_outcome operation cache first]
      exact induction _ later

/-- An operation that writes an entry back after other calls makes one `put` more if the
entry is dirty and can be encoded. -/
theorem makes_writeBack {calls : List StoreOperation} {operation : CacheOperation V B R}
    (same : operation.storeCalls codec cache = calls ++ codec.writeBackCalls key entry) :
    (entry.dirty = false → Makes codec calls operation cache) ∧
      (entry.dirty = true →
        (∀ payload, codec.encode entry.value = .ok payload →
          Makes codec (calls ++ [.put key payload]) operation cache) ∧
        ∀ failure, codec.encode entry.value = .error failure →
          Makes codec calls operation cache) := by
  refine ⟨?_, fun dirty => ⟨?_, ?_⟩⟩
  · intro clean
    apply makes_of_storeCalls
    rw [same, EntryCodec.writeBackCalls_clean clean, List.append_nil]
  · intro payload encoded
    apply makes_of_storeCalls
    rw [same, EntryCodec.writeBackCalls_encoded dirty encoded]
  · intro failure failed
    apply makes_of_storeCalls
    rw [same, EntryCodec.writeBackCalls_unencodable dirty failed, List.append_nil]

end CacheOperation

open CacheOperation StoreOperation

/-- While an entity is active, only the end of its activity uses the store, with one `put`
if the entry is dirty and can be encoded. An operation on an inactive entity costs one
`get`, and a change that leaves what was loaded dirty one `put` more. So as long as the
device does not fail, the payloads counted as written are the dirty entries given up, and
what is done to an active entity does not reach the store before its activity ends. -/
theorem EntityCache.storage_access (codec : EntryCodec V B) (cache : EntityCache δ V) :
    (∀ key entry, cache.active[key]? = some entry →
      (∀ baseline, Makes codec [] (.activate key baseline : CacheOperation V B R) cache ∧
        Makes codec [] (.peek key baseline : CacheOperation V B R) cache ∧
        ∀ change : Entry V → R × Entry V, Makes codec [] (.mutate key baseline change) cache) ∧
      (entry.dirty = false → Makes codec [] (.deactivate key : CacheOperation V B R) cache) ∧
      (entry.dirty = true →
        (∀ payload, codec.encode entry.value = .ok payload →
          Makes codec [.put key payload] (.deactivate key : CacheOperation V B R) cache) ∧
        ∀ failure, codec.encode entry.value = .error failure →
          Makes codec [] (.deactivate key : CacheOperation V B R) cache)) ∧
      (∀ key, cache.active[key]? = none →
        Makes codec [] (.deactivate key : CacheOperation V B R) cache ∧
        ∀ baseline,
          Makes codec [.get key] (.activate key baseline : CacheOperation V B R) cache ∧
          Makes codec [.get key] (.peek key baseline : CacheOperation V B R) cache ∧
          ∀ change : Entry V → R × Entry V,
            ((CacheOperation.mutate key baseline change).outcome codec cache).2.active =
              cache.active ∧
            (∀ failure store, load codec key baseline cache.store = .error failure store →
              Makes codec [.get key] (.mutate key baseline change) cache) ∧
            ∀ entry store, load codec key baseline cache.store = .ok entry store →
              ((change entry).2.dirty = false →
                Makes codec [.get key] (.mutate key baseline change) cache) ∧
              ((change entry).2.dirty = true →
                (∀ payload, codec.encode (change entry).2.value = .ok payload →
                  Makes codec [.get key, .put key payload] (.mutate key baseline change) cache) ∧
                ∀ failure, codec.encode (change entry).2.value = .error failure →
                  Makes codec [.get key] (.mutate key baseline change) cache)) ∧
      (∀ baseline, Makes codec [] (.reconcileAll baseline : CacheOperation V B R) cache) ∧
      (∀ roles, ∃ payload, RoleSet.codec.encode roles = .ok payload) ∧
      (∀ operations : List (CacheOperation V B R),
        Spared StoreError.OfDevice (storeCallsOf codec operations cache) cache.store →
          (CacheOperation.runAll codec operations cache).2.store.stats.writes =
            cache.store.stats.writes + savesOf codec operations cache) ∧
      ∀ key, cache.active[key]? ≠ none →
        ∀ operations : List (CacheOperation V B R), .deactivate key ∉ operations →
          (CacheOperation.runAll codec operations cache).2.store =
            (CacheOperation.runAll codec
              (operations.filter fun operation => operation.target? ≠ some key) cache).2.store := by
  refine ⟨?_, ?_, fun _ => makes_of_storeCalls rfl, fun _ => ⟨_, rfl⟩,
    fun operations => writes_runAll operations cache,
    fun key live operations goesOn => ((AgreeApart.refl live).runAll goesOn).store⟩
  · intro key entry live
    have nothing {operation : CacheOperation V B R} (own : operation.target? = some key)
        (goesOn : operation ≠ .deactivate key) : Makes codec [] operation cache :=
      makes_of_storeCalls (storeCalls_live live own goesOn)
    have ends : (CacheOperation.deactivate key : CacheOperation V B R).storeCalls codec cache =
        [] ++ codec.writeBackCalls key entry := storeCalls_deactivate live
    exact ⟨fun baseline => ⟨nothing rfl nofun, nothing rfl nofun, fun _ => nothing rfl nofun⟩,
      makes_writeBack ends⟩
  · intro key inactive
    refine ⟨makes_of_storeCalls (by rw [storeCalls, inactive]), fun baseline =>
      ⟨makes_of_storeCalls (by rw [storeCalls, inactive]),
        makes_of_storeCalls (by rw [storeCalls, inactive]), fun change => ⟨?_, ?_, ?_⟩⟩⟩
    · rw [outcome_mutate, snd_answered]
      exact active_mutate_offline inactive baseline change
    · intro failure store failed
      apply makes_of_storeCalls
      rw [storeCalls, inactive]
      simp only [failed]
    · intro entry store loaded
      have saves : (CacheOperation.mutate key baseline change).storeCalls codec cache =
          [.get key] ++ codec.writeBackCalls key (change entry).2 :=
        storeCalls_mutate_offline inactive loaded change
      exact makes_writeBack saves

namespace RoleSet

/-- Grants a role to an entity, active or not. -/
def granting (key : EntityId) : CacheOperation RoleSet (List String) Unit :=
  .mutate key [] fun entry => ((), entry.modify (grant "admin"))

/-- A cache over an empty store, with one active entity. -/
def singlyActive : EntityCache Memory RoleSet :=
  ((.activate (.ofPool 1) [] : CacheOperation RoleSet (List String) Unit).outcome codec
    (.ofStore (Store.opened {} []))).2

/-- Of two roles that are granted, one of them to an active entity, only the other is in
the store as long as that entity is active; then there are two payloads. -/
theorem storage_access_two_roles :
    (CacheOperation.runAll codec [granting (.ofPool 1), granting (.ofPool 2)]
        singlyActive).2.store =
      (CacheOperation.runAll codec [granting (.ofPool 2)] singlyActive).2.store ∧
    (CacheOperation.runAll codec
      [granting (.ofPool 1), granting (.ofPool 2), .deactivate (.ofPool 1)]
      singlyActive).2.store.stats.writes = 2 := by
  constructor
  · rcases EntityCache.storage_access codec singlyActive with ⟨_, _, _, _, _, apart⟩
    have live : singlyActive.active[EntityId.ofPool 1]?.isSome = true := by decide +kernel
    exact apart (.ofPool 1) (Option.isSome_iff_ne_none.mp live)
      [granting (.ofPool 1), granting (.ofPool 2)] (by simp [granting])
  · rcases EntityCache.storage_access codec singlyActive with ⟨_, _, _, _, counted, _⟩
    have answered : (StoreOperation.runAll (storeCallsOf codec
        [granting (.ofPool 1), granting (.ofPool 2), .deactivate (.ofPool 1)] singlyActive)
        singlyActive.store).1.all Except.isOk = true := by decide +kernel
    rw [counted _ fun reason member => by cases List.all_eq_true.mp answered _ member]
    decide +kernel

end RoleSet

end PackedRecords
