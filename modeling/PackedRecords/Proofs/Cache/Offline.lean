import PackedRecords.Proofs.Cache.Steps
import PackedRecords.Proofs.Cache.StoreCalls
import PackedRecords.Proofs.Store.Opening
import PackedRecords.Roles.RoleSet

/-! # Changes of inactive entities

An entity can be changed offline, or it can be made active, changed and given up again.
Both come to the same, also in what they ask of the store and in how they fail.
-/

namespace PackedRecords

variable {δ V B R : Type}

/-- An entry that comes into the map, is exchanged and goes again leaves no trace. -/
theorem ActiveMap.erase_insert_insert {active : ActiveMap V} {key : EntityId}
    (inactive : active[key]? = none) (first second : Entry V) :
    ((active.insert key first).insert key second).erase key = active := by
  apply Std.ExtTreeMap.ext_getElem?
  intro other
  rw [Std.ExtTreeMap.getElem?_erase, Std.ExtTreeMap.getElem?_insert,
    Std.ExtTreeMap.getElem?_insert]
  simp only [Std.LawfulEqCmp.compare_eq_iff_eq]
  by_cases here : key = other
  · rw [if_pos here, ← here, inactive]
  · rw [if_neg here, if_neg here, if_neg here]

namespace EntityCache

variable [ByteDevice δ] {codec : EntryCodec V B} {cache : EntityCache δ V} {key : EntityId}
  {baseline : B} {entry : Entry V} {store : Store δ}

/-! ## A short activity -/

/-- The cache while an entity is active that was loaded from `store`. -/
def during (key : EntityId) (entry : Entry V) (store : Store δ) (cache : EntityCache δ V) :
    EntityCache δ V :=
  { cache with store, active := cache.active.insert key entry }

/-- The same cache once the entry has been exchanged. -/
def changed (key : EntityId) (entry : Entry V) (cache : EntityCache δ V) :
    EntityCache δ V :=
  { cache with active := cache.active.insert key entry }

theorem activate_loaded (inactive : cache.active[key]? = none)
    (loaded : load codec key baseline cache.store = .ok entry store) :
    activate codec key baseline cache = .ok entry (cache.during key entry store) := by
  rw [activate_inactive inactive, loaded]
  rfl

theorem mutate_during (baseline : B) (change : Entry V → R × Entry V) :
    mutate codec key baseline change (cache.during key entry store) =
      .ok (change entry).1 ((cache.during key entry store).changed key (change entry).2) :=
  mutate_live Std.ExtTreeMap.getElem?_insert_self baseline change

theorem deactivate_changed (inactive : cache.active[key]? = none) (left : Entry V) :
    deactivate codec key ((cache.during key entry store).changed key left) =
      match writeBack codec key left store with
      | .ok _ final => .ok left.dirty { cache with store := final }
      | .error failure final =>
          .error failure { (cache.during key entry store).changed key left with
            store := final } := by
  rw [deactivate_live Std.ExtTreeMap.getElem?_insert_self]
  have sameStore : ((cache.during key entry store).changed key left).store = store := rfl
  rw [sameStore]
  cases writeBack codec key left store with
  | ok done final => simp only [during, changed, ActiveMap.erase_insert_insert inactive]
  | error failure final => rfl

/-! ## Comparison -/

/-- Writing back succeeds with one `put` of the encoding, or with nothing to do. -/
theorem writeBack_ok {final : Store δ} (ran : writeBack codec key entry store = .ok () final) :
    entry.dirty = false ∧ codec.writeBackCalls key entry = [] ∨
      entry.dirty = true ∧ ∃ payload, codec.encode entry.value = .ok payload ∧
        codec.writeBackCalls key entry = [.put key payload] := by
  cases dirty : entry.dirty with
  | false => exact .inl ⟨rfl, EntryCodec.writeBackCalls_clean dirty⟩
  | true =>
      rw [writeBack_dirty dirty] at ran
      cases encoded : codec.encode entry.value with
      | error failure =>
          rw [save_of_unencodable encoded] at ran
          cases ran
      | ok payload =>
          exact .inr ⟨rfl, payload, rfl, EntryCodec.writeBackCalls_encoded dirty encoded⟩

section Comparison

variable (inactive : cache.active[key]? = none)
include inactive

theorem storeCalls_offline (loaded : load codec key baseline cache.store = .ok entry store)
    (change : Entry V → R × Entry V) :
    CacheOperation.storeCallsOf codec [.mutate key baseline change] cache =
      .get key :: codec.writeBackCalls key (change entry).2 := by
  rw [CacheOperation.storeCallsOf, CacheOperation.storeCallsOf, List.append_nil]
  exact CacheOperation.storeCalls_mutate_offline inactive loaded change

theorem storeCalls_resident (loaded : load codec key baseline cache.store = .ok entry store)
    (change : Entry V → R × Entry V) :
    CacheOperation.storeCallsOf codec
        [.activate key baseline, .mutate key baseline change, .deactivate key] cache =
      .get key :: codec.writeBackCalls key (change entry).2 := by
  have first : (CacheOperation.activate key baseline : CacheOperation V B R).outcome codec cache =
      (.ok (.entry entry), cache.during key entry store) := by
    rw [CacheOperation.outcome_activate, activate_loaded inactive loaded]
    rfl
  have second : (CacheOperation.mutate key baseline change).outcome codec
      (cache.during key entry store) = (.ok (.result (change entry).1),
        (cache.during key entry store).changed key (change entry).2) := by
    rw [CacheOperation.outcome_mutate, mutate_during]
    rfl
  have live : (cache.during key entry store).active[key]? = some entry :=
    Std.ExtTreeMap.getElem?_insert_self
  have exchanged : ((cache.during key entry store).changed key (change entry).2).active[key]? =
      some (change entry).2 := Std.ExtTreeMap.getElem?_insert_self
  simp only [CacheOperation.storeCallsOf, CacheOperation.storeCalls, first, second, inactive,
    live, exchanged, List.append_nil, List.nil_append, List.singleton_append]

/-- Changing an entity offline is making it active, changing it and giving it up again:
the same result, the same calls of the store, which are one `get` and, if the change
leaves the entry dirty, one `put` of its encoding, and the same cache afterwards; no hook
is told. What cannot be loaded cannot be made active either, and what cannot be written
back keeps the entity from being given up, each for the same reason. -/
theorem mutate_offline (baseline : B) (change : Entry V → R × Entry V) :
    (∀ result after, mutate codec key baseline change cache = .ok result after →
      ∃ entry first second, activate codec key baseline cache = .ok entry first ∧
        mutate codec key baseline change first = .ok result second ∧
        deactivate codec key second = .ok (change entry).2.dirty after ∧
        after.active = cache.active ∧ after.rebuilds = cache.rebuilds ∧
        ∃ calls, CacheOperation.storeCallsOf codec [.mutate key baseline change] cache = calls ∧
          CacheOperation.storeCallsOf codec
            [.activate key baseline, .mutate key baseline change, .deactivate key] cache =
              calls ∧
          (StoreOperation.runAll calls cache.store).2 = after.store ∧
          ((change entry).2.dirty = false ∧ calls = [.get key] ∨
            (change entry).2.dirty = true ∧
              ∃ payload, codec.encode (change entry).2.value = .ok payload ∧
                calls = [.get key, .put key payload])) ∧
      (∀ failure store, load codec key baseline cache.store = .error failure store →
        mutate codec key baseline change cache = .error failure { cache with store } ∧
          activate codec key baseline cache = .error failure { cache with store }) ∧
      ∀ entry loaded, load codec key baseline cache.store = .ok entry loaded →
        ∀ failure after, mutate codec key baseline change cache = .error failure after →
          ∃ first second final, activate codec key baseline cache = .ok entry first ∧
            mutate codec key baseline change first = .ok (change entry).1 second ∧
            deactivate codec key second = .error failure final ∧
            final.store = after.store := by
  refine ⟨?_, ?_, ?_⟩
  · intro result after ran
    rcases mutate_inactive_ok inactive ran with ⟨entry, middle, final, loaded, written, rfl, rfl⟩
    have left : (CacheOperation.runAll codec [.mutate key baseline change] cache).2.store = _ :=
      CacheOperation.store_of_runAll [.mutate key baseline change] cache
    have ended : deactivate codec key
        ((cache.during key entry middle).changed key (change entry).2) = _ :=
      deactivate_changed inactive (change entry).2
    rw [CacheOperation.runAll, CacheOperation.outcome_mutate, ran,
      storeCalls_offline inactive loaded] at left
    rw [written] at ended
    refine ⟨entry, _, _, activate_loaded inactive loaded, mutate_during baseline change, ended,
      rfl, rfl, _, storeCalls_offline inactive loaded change,
      storeCalls_resident inactive loaded change, left.symm, ?_⟩
    rcases writeBack_ok written with ⟨clean, none⟩ | ⟨dirty, payload, encoded, put⟩
    · exact .inl ⟨clean, by rw [none]⟩
    · exact .inr ⟨dirty, payload, encoded, by rw [put]⟩
  · intro failure store failed
    rw [mutate_inactive inactive, activate_inactive inactive, failed]
    exact ⟨rfl, rfl⟩
  · intro entry middle loaded failure after ran
    have ended : deactivate codec key
        ((cache.during key entry middle).changed key (change entry).2) = _ :=
      deactivate_changed inactive (change entry).2
    rw [mutate_inactive_error inactive loaded ran] at ended
    exact ⟨_, _, _, activate_loaded inactive loaded, mutate_during baseline change, ended, rfl⟩

end Comparison

end EntityCache

/-- A role granted offline to an entity without a record reaches the store. -/
theorem EntityCache.mutate_offline_granting :
    ∃ after entry first second,
      mutate RoleSet.codec (.ofPool 1) ["everyone"]
          (fun entry => ((), entry.modify (RoleSet.grant "admin")))
          (.ofStore (Store.opened {} []) : EntityCache Memory RoleSet) = .ok () after ∧
        activate RoleSet.codec (.ofPool 1) ["everyone"] (.ofStore (Store.opened {} [])) =
          .ok entry first ∧
        mutate RoleSet.codec (.ofPool 1) ["everyone"]
          (fun entry => ((), entry.modify (RoleSet.grant "admin"))) first = .ok () second ∧
        deactivate RoleSet.codec (.ofPool 1) second = .ok true after := by
  let change (entry : Entry RoleSet) := ((), entry.modify (RoleSet.grant "admin"))
  let cache : EntityCache Memory RoleSet := .ofStore (Store.opened {} [])
  have inactive : cache.active[EntityId.ofPool 1]? = none := Std.ExtTreeMap.getElem?_empty
  have success : succeeds (mutate RoleSet.codec (.ofPool 1) ["everyone"] change cache) = true := by
    cbv
  rcases exists_of_succeeds success with ⟨result, after, ran⟩
  rcases (mutate_offline inactive ["everyone"] change).1 result after ran with
    ⟨entry, first, second, activated, mutated, deactivated, _⟩
  exact ⟨after, entry, first, second, ran, activated, mutated, deactivated⟩

end PackedRecords
