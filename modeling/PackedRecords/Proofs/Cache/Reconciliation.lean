import PackedRecords.Proofs.Cache.CleanEntries

/-! # Reconciliation

To bring all active entities in line with a baseline is to activate each of them again,
in the same order. The keys are distinct, so that this order does not show in the active
entries, and for each entity the hooks are told the same in the same order.
-/

namespace PackedRecords

variable {δ V B R : Type}

namespace EntityCache

variable (codec : EntryCodec V B) (baseline : B) (cache : EntityCache δ V)

/-! ## What hooks are told -/

/-- Every hook has been told once of every active entity with its value, the hooks of one
entity in their order, and nothing else has been told. -/
def Announces (hooks : Nat) (active : ActiveMap V) (told : List (Rebuild V)) : Prop :=
  ∀ key, told.filter (fun rebuild => rebuild.key = key) =
    match active[key]? with
    | some entry => (List.range hooks).map fun hook => ⟨key, hook, entry.value⟩
    | none => []

variable {codec baseline cache}

theorem key_of_mem_news {key : EntityId} {rebuild : Rebuild V}
    (member : rebuild ∈ news codec baseline cache key) : rebuild.key = key := by
  rw [news] at member
  cases live : (realignedEntries codec baseline cache)[key]? with
  | none =>
      rw [live] at member
      cases member
  | some entry =>
      rw [live] at member
      rcases List.mem_map.mp member with ⟨hook, _, rfl⟩
      rfl

theorem filter_news (other key : EntityId) :
    (news codec baseline cache other).filter (fun rebuild => rebuild.key = key) =
      if other = key then news codec baseline cache key else [] := by
  by_cases same : other = key
  · rw [if_pos same, same, List.filter_eq_self]
    intro rebuild member
    exact decide_eq_true (key_of_mem_news member)
  · rw [if_neg same, List.filter_eq_nil_iff]
    intro rebuild member
    rw [key_of_mem_news member, decide_eq_true_eq]
    exact same

/-- What is told of one entity is found again among what is told of many. -/
theorem filter_flatMap_news {keys : List EntityId} (distinct : keys.Nodup) (key : EntityId) :
    (keys.flatMap (news codec baseline cache)).filter (fun rebuild => rebuild.key = key) =
      if key ∈ keys then news codec baseline cache key else [] := by
  rw [List.filter_flatMap]
  simp only [filter_news]
  induction keys with
  | nil => rfl
  | cons first rest induction =>
      rcases List.nodup_cons.mp distinct with ⟨notLater, restDistinct⟩
      rw [List.flatMap_cons, induction restDistinct]
      by_cases here : first = key
      · rw [here] at notLater
        rw [if_pos here, here, if_neg notLater, if_pos List.mem_cons_self, List.append_nil]
      · have elsewhere : key ∈ first :: rest ↔ key ∈ rest := by
          rw [List.mem_cons]
          exact or_iff_right (Ne.symm here)
        simp only [if_neg here, List.nil_append, elsewhere]

theorem announces_news {keys : List EntityId} (all : keys.Perm cache.activeKeys) :
    Announces cache.hooks (realignedEntries codec baseline cache)
      (keys.flatMap (news codec baseline cache)) := by
  intro key
  have distinct : keys.Nodup := all.nodup_iff.mpr Std.ExtTreeMap.nodup_keys
  rw [filter_flatMap_news distinct]
  by_cases member : key ∈ keys
  · rw [if_pos member]
    rfl
  · have inactive : cache.active[key]? = none :=
      Std.ExtTreeMap.getElem?_eq_none (mt (mem_keys_of_perm all).mpr member)
    rw [if_neg member, getElem?_realignedEntries, inactive]
    rfl

end EntityCache

/-! ## Bringing all entities in line -/

namespace CacheOperation

variable [ByteDevice δ] {codec : EntryCodec V B} {baseline : B}

/-- The answer of activating an active entity again. -/
def realignedAnswer? (codec : EntryCodec V B) (baseline : B) (cache : EntityCache δ V)
    (key : EntityId) : Option (Except StoreError (CacheAnswer V R)) :=
  (EntityCache.realignedEntries codec baseline cache)[key]?.map fun entry => .ok (.entry entry)

/-- Activating active entities again answers the entry of each, and does what it is to
visit them in the same order. -/
theorem runAll_activate {keys : List EntityId} (distinct : keys.Nodup)
    {cache : EntityCache δ V} (active : ∀ key ∈ keys, key ∈ cache.active) :
    runAll codec (keys.map fun key => (activate key baseline : CacheOperation V B R)) cache =
      (keys.filterMap (realignedAnswer? codec baseline cache),
        keys.foldl (EntityCache.realign codec baseline) cache) := by
  induction keys generalizing cache with
  | nil => rfl
  | cons first rest induction =>
      rcases List.nodup_cons.mp distinct with ⟨notLater, restDistinct⟩
      rcases List.forall_mem_cons.mp active with ⟨firstActive, restActive⟩
      rcases Option.isSome_iff_exists.mp (Std.ExtTreeMap.isSome_getElem?_iff_mem.mpr firstActive)
        with ⟨entry, live⟩
      let middle := EntityCache.realign codec baseline cache first
      have middleActive : middle.active =
          cache.active.insert first (EntityCache.realigned codec first baseline entry) := by
        simp only [middle, EntityCache.realign_live live]
      have step : (activate first baseline : CacheOperation V B R).outcome codec cache =
          (.ok (.entry (EntityCache.realigned codec first baseline entry)), middle) := by
        simp only [middle]
        rw [outcome_activate, EntityCache.activate_live live, EntityCache.realign_live live,
          EntityCache.news_of_live live]
        rfl
      have firstAnswer : realignedAnswer? (R := R) codec baseline cache first =
          some (.ok (.entry (EntityCache.realigned codec first baseline entry))) := by
        rw [realignedAnswer?, EntityCache.realignedEntries_of_live live]
        rfl
      have laterAnswers : rest.filterMap (realignedAnswer? (R := R) codec baseline middle) =
          rest.filterMap (realignedAnswer? codec baseline cache) :=
        List.filterMap_congr fun key later => by
          have apart : middle.active[key]? = cache.active[key]? := by
            rw [middleActive]
            exact ActiveMap.getElem?_insert_of_ne (ne_of_mem_of_not_mem later notLater).symm _
          rw [realignedAnswer?, EntityCache.realignedEntries_congr apart, realignedAnswer?]
      have stillActive : ∀ key ∈ rest, key ∈ middle.active := by
        intro key later
        rw [middleActive]
        exact Std.ExtTreeMap.mem_insert.mpr (.inr (restActive key later))
      rw [List.map_cons, runAll, step]
      simp only [induction restDistinct stillActive]
      rw [laterAnswers, List.filterMap_cons_some firstAnswer, List.foldl_cons]

/-! ## Everything else -/

/-- Hooks are told of nothing but entities that are brought in line. -/
theorem rebuilds_outcome {operation : CacheOperation V B R} (cache : EntityCache δ V)
    (single : ∀ baseline, operation ≠ .reconcileAll baseline)
    (first : ∀ key baseline, operation = .activate key baseline → cache.active[key]? = none) :
    (operation.outcome codec cache).2.rebuilds = cache.rebuilds := by
  cases operation with
  | activate key baseline =>
      rw [outcome_activate, snd_answered, EntityCache.activate_inactive (first key baseline rfl)]
      cases EntityCache.load codec key baseline cache.store <;> rfl
  | deactivate key =>
      rw [outcome_deactivate, snd_answered]
      cases live : cache.active[key]? with
      | none => rw [EntityCache.deactivate_inactive live, finalState]
      | some entry =>
          rw [EntityCache.deactivate_live live]
          cases EntityCache.writeBack codec key entry cache.store <;> rfl
  | mutate key baseline change =>
      rw [outcome_mutate, snd_answered]
      cases live : cache.active[key]? with
      | some entry => rw [EntityCache.mutate_live live, finalState]
      | none =>
          rw [EntityCache.mutate_inactive live]
          cases EntityCache.load codec key baseline cache.store with
          | error failure final => rfl
          | ok entry middle =>
              simp only []
              cases EntityCache.writeBack codec key (change entry).2 middle <;> rfl
  | peek key baseline =>
      rw [outcome_peek, snd_answered]
      cases live : cache.active[key]? with
      | some entry => rw [EntityCache.peek_live live, finalState]
      | none =>
          rw [EntityCache.peek_inactive live]
          cases EntityCache.load codec key baseline cache.store <;> rfl
  | reconcileAll baseline => exact absurd rfl (single baseline)
  | addHook => rfl

end CacheOperation

/-- Bringing all active entities in line with a baseline at once, or activating each of
them again in any order, leaves the same active entries: every value reconciled and every
entry dirty. The first answers the number of entities and the second each entry. Neither
touches the store, and both tell every hook once of every entity, the hooks of one entity
in their order, with the value that it has afterwards; if both visit the entities in the
same order, whichever it is, they tell all of it in the same order. No other operation
tells the hooks anything, whether it succeeds or fails. -/
theorem EntityCache.reconciliation [ByteDevice δ] (codec : EntryCodec V B) (baseline : B)
    (cache : EntityCache δ V) :
    ∃ active : ActiveMap V,
      (∀ key : EntityId, active[key]? = cache.active[key]?.map fun entry =>
        ⟨codec.reconcile key baseline entry.value, true⟩) ∧
      (∃ told, (.reconcileAll baseline : CacheOperation V B R).outcome codec cache =
          (.ok (.number cache.activeCount),
            ⟨cache.store, active, cache.hooks, cache.rebuilds ++ told⟩) ∧
        Announces cache.hooks active told) ∧
      (∀ keys : List EntityId, keys.Perm cache.activeKeys →
        ∃ told, CacheOperation.runAll codec
            (keys.map fun key => (.activate key baseline : CacheOperation V B R)) cache =
          (keys.filterMap fun key => active[key]?.map fun entry => .ok (.entry entry),
            ⟨cache.store, active, cache.hooks, cache.rebuilds ++ told⟩) ∧
        reconcileAllIn codec keys baseline cache =
          .ok cache.activeCount
            ⟨cache.store, active, cache.hooks, cache.rebuilds ++ told⟩ ∧
        Announces cache.hooks active told) ∧
      ∀ operation : CacheOperation V B R, (∀ other, operation ≠ .reconcileAll other) →
        (∀ key other, operation = .activate key other → cache.active[key]? = none) →
        (operation.outcome codec cache).2.rebuilds = cache.rebuilds := by
  refine ⟨realignedEntries codec baseline cache, getElem?_realignedEntries, ?_, ?_, ?_⟩
  · exact ⟨_, CacheOperation.outcome_reconcileAll baseline, announces_news (.refl _)⟩
  · intro keys all
    have distinct : keys.Nodup := all.nodup_iff.mpr Std.ExtTreeMap.nodup_keys
    have ran : CacheOperation.runAll codec
        (keys.map fun key => (.activate key baseline : CacheOperation V B R)) cache = _ :=
      CacheOperation.runAll_activate distinct fun key => (mem_keys_of_perm all).mp
    rw [foldl_realign_activeKeys all] at ran
    exact ⟨_, ran, reconcileAllIn_run all, announces_news all⟩
  · intro operation single first
    exact CacheOperation.rebuilds_outcome cache single first

namespace RoleLines

/-- Two entities are active, one of them with a role, and there are two hooks. -/
def watchedCache : EntityCache Memory RoleLines :=
  (CacheOperation.runAll codec [.addHook, .addHook, .activate (.ofPool 1) [],
    .activate (.ofPool 2) [], adding "admin" (.ofPool 1)] (.ofStore (Store.opened {} []))).2

/-- Both ways leave the same entries, and the first entity is announced to both hooks in
their order, with its new default. -/
theorem reconciliation_two_entities :
    ∃ atOnce oneByOne : EntityCache Memory RoleLines,
      (.reconcileAll ["guest"] : CacheOperation RoleLines (List String) Unit).outcome codec
        watchedCache = (.ok (.number 2), atOnce) ∧
      (CacheOperation.runAll codec [.activate (.ofPool 2) ["guest"],
        (.activate (.ofPool 1) ["guest"] : CacheOperation RoleLines (List String) Unit)]
        watchedCache).2 = oneByOne ∧
      oneByOne.active = atOnce.active ∧ oneByOne.store = watchedCache.store ∧
      (oneByOne.rebuilds.filter fun rebuild => rebuild.key = .ofPool 1) =
        [⟨.ofPool 1, 0, ⟨["admin"], "guest", .fresh, 1⟩⟩,
          ⟨.ofPool 1, 1, ⟨["admin"], "guest", .fresh, 1⟩⟩] := by
  rcases EntityCache.reconciliation (R := Unit) codec ["guest"] watchedCache with
    ⟨active, entries, ⟨_, reconciled, _⟩, activated, _⟩
  have visited : [EntityId.ofPool 2, .ofPool 1].Perm watchedCache.activeKeys := by
    decide +kernel
  have count : watchedCache.activeCount = 2 := by decide +kernel
  have quiet : watchedCache.rebuilds = [] := by decide +kernel
  have live : watchedCache.active[EntityId.ofPool 1]? =
      some ⟨⟨["admin"], "", .fresh, 0⟩, true⟩ := by decide +kernel
  have hooks : watchedCache.hooks = 2 := by decide +kernel
  rcases activated _ visited with ⟨told, ran, _, announced⟩
  have heard := announced (.ofPool 1)
  rw [entries, live, hooks] at heard
  rw [count] at reconciled
  refine ⟨_, _, reconciled, congrArg Prod.snd ran, rfl, rfl, ?_⟩
  rw [quiet, List.nil_append]
  exact heard

end RoleLines

end PackedRecords
