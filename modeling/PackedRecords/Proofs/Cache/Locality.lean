import PackedRecords.Proofs.Cache.StoreCalls

/-! # Operations on single entities

An operation on one entity looks at the entry of that entity, if it is active, and at
the store, and leaves all other entries alone. Its calls of the store are about the record
of that entity, so that it leaves all other payloads alone as well.
-/

namespace PackedRecords

variable {δ V B R : Type}

/-! ## Calls that concern one key -/

/-- The call reads or writes the payload of the key. -/
def StoreOperation.Concerns (key : EntityId) : StoreOperation → Prop
  | get other | put other _ => other = key
  | _ => False

theorem StoreOperation.not_mem_close_of_concerns {key : EntityId} {calls : List StoreOperation}
    (concerns : ∀ call ∈ calls, call.Concerns key) : .close ∉ calls :=
  concerns .close

/-- Calls for one key leave the payloads of other keys as they are. -/
theorem Ledger.payload?_runAll_of_concerns {key other : EntityId} (different : key ≠ other)
    {calls : List StoreOperation} (concerns : ∀ call ∈ calls, call.Concerns key) (limit : Nat)
    (ledger : Ledger) : (ledger.runAll limit calls).2.payload? other = ledger.payload? other := by
  induction calls generalizing ledger with
  | nil => rfl
  | cons call rest induction =>
      rcases List.forall_mem_cons.mp concerns with ⟨first, later⟩
      rw [runAll]
      refine (induction later _).trans ?_
      cases call with
      | get target => rfl
      | put target payload =>
          cases first
          rw [apply]
          by_cases large : limit < payload.size
          · rw [if_pos large]
          · rw [if_neg large]
            exact payload?_put_of_ne different ledger payload
      | _ => exact first.elim

theorem Ledger.recorded_put {ledger : Ledger}
    (recorded : ∀ key ∈ ledger.live, key ∈ keysOf ledger.records) (key : EntityId)
    (payload : ByteArray) :
    ∀ other ∈ (ledger.put key payload).live, other ∈ keysOf (ledger.put key payload).records := by
  intro other inUse
  rw [mem_live_put] at inUse
  rw [put]
  by_cases known : key ∈ ledger.live
  · rw [if_pos known, keysOf_replaceLast]
    rcases inUse with rfl | earlier
    · exact recorded _ known
    · exact recorded _ earlier
  · rw [if_neg known, keysOf_append, List.mem_append]
    rcases inUse with rfl | earlier
    · exact .inr (List.mem_singleton_self _)
    · exact .inl (recorded _ earlier)

/-- After calls for one key its payload is the one it had, or one that was put. -/
theorem Ledger.payload?_runAll_cases {key : EntityId} {calls : List StoreOperation}
    (concerns : ∀ call ∈ calls, call.Concerns key) {limit : Nat} {ledger : Ledger}
    (recorded : ∀ key ∈ ledger.live, key ∈ keysOf ledger.records) {payload : ByteArray}
    (found : (ledger.runAll limit calls).2.payload? key = some payload) :
    ledger.payload? key = some payload ∨
      payload.size ≤ limit ∧ .put key payload ∈ calls := by
  induction calls generalizing ledger with
  | nil => exact .inl found
  | cons call rest induction =>
      rcases List.forall_mem_cons.mp concerns with ⟨first, later⟩
      change ((ledger.apply limit call).2.runAll limit rest).2.payload? key = some payload at found
      have rests {after : Ledger} (reached : (ledger.apply limit call).2 = after)
          (afterRecorded : ∀ key ∈ after.live, key ∈ keysOf after.records) :
          after.payload? key = some payload ∨
            payload.size ≤ limit ∧ .put key payload ∈ call :: rest := by
        rw [reached] at found
        exact (induction later afterRecorded found).imp id
          fun ⟨short, member⟩ => ⟨short, List.mem_cons_of_mem _ member⟩
      cases call with
      | get target => exact rests rfl recorded
      | put target bytes =>
          cases first
          by_cases large : limit < bytes.size
          · exact rests (by rw [apply, if_pos large]) recorded
          · have put : (ledger.apply limit (.put key bytes)).2 = ledger.put key bytes := by
              rw [apply, if_neg large]
            rcases rests put (recorded_put recorded key bytes) with same | there
            · rw [payload?_put recorded, if_pos rfl] at same
              cases same
              exact .inr ⟨Nat.le_of_not_lt large, List.mem_cons_self⟩
            · exact .inr there
      | _ => exact first.elim

/-! ## Operations with a target -/

namespace CacheOperation

/-- The entity that an operation is about, if it is about a single one. -/
def target? : CacheOperation V B R → Option EntityId
  | activate key _ | deactivate key | mutate key _ _ | peek key _ => some key
  | reconcileAll _ | addHook => none

variable [ByteDevice δ] (codec : EntryCodec V B)

/-- The entry of the entity and the store after an operation on it, from those before. -/
def locally (operation : CacheOperation V B R) (live : Option (Entry V)) (store : Store δ) :
    Option (Entry V) × Store δ :=
  match operation, live with
  | activate key baseline, some entry =>
      (some (EntityCache.realigned codec key baseline entry), store)
  | activate key baseline, none =>
      match EntityCache.load codec key baseline store with
      | .ok entry after => (some entry, after)
      | .error _ after => (none, after)
  | deactivate key, some entry =>
      match EntityCache.writeBack codec key entry store with
      | .ok _ after => (none, after)
      | .error _ after => (some entry, after)
  | mutate _ _ change, some entry => (some (change entry).2, store)
  | mutate key baseline change, none =>
      match EntityCache.load codec key baseline store with
      | .ok entry middle =>
          (none, finalState (EntityCache.writeBack codec key (change entry).2 middle))
      | .error _ after => (none, after)
  | peek key baseline, none => (none, finalState (EntityCache.load codec key baseline store))
  | _, live => (live, store)

variable {codec} {cache : EntityCache δ V} {key : EntityId}

/-- The operation does to its entity what it does to it alone, and nothing to others. -/
theorem outcome_locally {operation : CacheOperation V B R} (own : operation.target? = some key)
    (cache : EntityCache δ V) :
    ((operation.outcome codec cache).2.active[key]?, (operation.outcome codec cache).2.store) =
        operation.locally codec cache.active[key]? cache.store ∧
      ∀ other, key ≠ other →
        (operation.outcome codec cache).2.active[other]? = cache.active[other]? := by
  cases operation with
  | activate target baseline =>
      cases own
      rw [outcome_activate, snd_answered]
      cases live : cache.active[key]? with
      | some entry =>
          rw [EntityCache.activate_live live]
          exact ⟨Prod.ext Std.ExtTreeMap.getElem?_insert_self rfl,
            fun _ different => ActiveMap.getElem?_insert_of_ne different _⟩
      | none =>
          rw [EntityCache.activate_inactive live, locally]
          cases EntityCache.load codec key baseline cache.store with
          | ok entry after =>
              exact ⟨Prod.ext Std.ExtTreeMap.getElem?_insert_self rfl,
                fun _ different => ActiveMap.getElem?_insert_of_ne different _⟩
          | error failure after => exact ⟨Prod.ext live rfl, fun _ _ => rfl⟩
  | deactivate target =>
      cases own
      rw [outcome_deactivate, snd_answered]
      cases live : cache.active[key]? with
      | some entry =>
          rw [EntityCache.deactivate_live live, locally]
          cases EntityCache.writeBack codec key entry cache.store with
          | ok done after =>
              exact ⟨Prod.ext Std.ExtTreeMap.getElem?_erase_self rfl,
                fun _ different => ActiveMap.getElem?_erase_of_ne different⟩
          | error failure after => exact ⟨Prod.ext live rfl, fun _ _ => rfl⟩
      | none =>
          rw [EntityCache.deactivate_inactive live]
          exact ⟨Prod.ext live rfl, fun _ _ => rfl⟩
  | mutate target baseline change =>
      cases own
      rw [outcome_mutate, snd_answered]
      cases live : cache.active[key]? with
      | some entry =>
          rw [EntityCache.mutate_live live]
          exact ⟨Prod.ext Std.ExtTreeMap.getElem?_insert_self rfl,
            fun _ different => ActiveMap.getElem?_insert_of_ne different _⟩
      | none =>
          rw [EntityCache.mutate_inactive live, locally]
          cases EntityCache.load codec key baseline cache.store with
          | error failure after => exact ⟨Prod.ext live rfl, fun _ _ => rfl⟩
          | ok entry middle =>
              simp only []
              cases EntityCache.writeBack codec key (change entry).2 middle <;>
                exact ⟨Prod.ext live rfl, fun _ _ => rfl⟩
  | peek target baseline =>
      cases own
      rw [outcome_peek, snd_answered]
      cases live : cache.active[key]? with
      | some entry =>
          rw [EntityCache.peek_live live]
          exact ⟨Prod.ext live rfl, fun _ _ => rfl⟩
      | none =>
          rw [EntityCache.peek_inactive live, locally]
          cases EntityCache.load codec key baseline cache.store <;>
            exact ⟨Prod.ext live rfl, fun _ _ => rfl⟩
  | reconcileAll baseline => cases own
  | addHook => cases own

theorem store_outcome_locally {operation : CacheOperation V B R}
    (own : operation.target? = some key) (cache : EntityCache δ V) :
    (operation.outcome codec cache).2.store =
      (operation.locally codec cache.active[key]? cache.store).2 :=
  congrArg Prod.snd (outcome_locally own cache).1

theorem active_outcome_locally {operation : CacheOperation V B R}
    (own : operation.target? = some key) (cache : EntityCache δ V) :
    (operation.outcome codec cache).2.active[key]? =
      (operation.locally codec cache.active[key]? cache.store).1 :=
  congrArg Prod.fst (outcome_locally own cache).1

theorem active_outcome_of_ne {operation : CacheOperation V B R} {other : EntityId}
    (own : operation.target? = some key) (different : key ≠ other) (cache : EntityCache δ V) :
    (operation.outcome codec cache).2.active[other]? = cache.active[other]? :=
  (outcome_locally own cache).2 other different

theorem active_outcome_reconcileAll (baseline : B) (key : EntityId)
    (cache : EntityCache δ V) :
    ((reconcileAll baseline : CacheOperation V B R).outcome codec cache).2.active[key]? =
      cache.active[key]?.map (EntityCache.realigned codec key baseline) := by
  rw [outcome_reconcileAll]
  exact EntityCache.getElem?_realignedEntries key

/-- An operation on an active entity that does not end its activity leaves the store
alone. -/
theorem locally_of_live (codec : EntryCodec V B) {operation : CacheOperation V B R}
    (goesOn : operation ≠ .deactivate key) (own : operation.target? = some key)
    (entry : Entry V) (store : Store δ) :
    ∃ changed, operation.locally codec (some entry) store = (some changed, store) := by
  cases operation with
  | activate target baseline => exact ⟨_, rfl⟩
  | deactivate target =>
      cases own
      exact absurd rfl goesOn
  | mutate target baseline change => exact ⟨_, rfl⟩
  | peek target baseline => exact ⟨_, rfl⟩
  | reconcileAll baseline => cases own
  | addHook => cases own

theorem storeCalls_live {operation : CacheOperation V B R}
    {entry : Entry V} (live : cache.active[key]? = some entry)
    (own : operation.target? = some key) (goesOn : operation ≠ .deactivate key) : operation.storeCalls codec cache = [] := by
  cases operation with
  | activate target baseline | mutate target baseline change | peek target baseline =>
      cases own
      rw [storeCalls, live]
  | deactivate target =>
      cases own
      exact absurd rfl goesOn
  | reconcileAll baseline => rfl
  | addHook => rfl

/-! ## Calls of an operation -/

theorem concerns_storeCalls {operation : CacheOperation V B R}
    (own : operation.target? = some key) (cache : EntityCache δ V) :
    ∀ call ∈ operation.storeCalls codec cache, call.Concerns key := by
  have written (entry : Entry V) : ∀ call ∈ codec.writeBackCalls key entry, call.Concerns key := by
    rw [EntryCodec.writeBackCalls]
    cases entry.dirty with
    | false => exact List.forall_mem_nil _
    | true =>
        cases codec.encode entry.value with
        | ok payload => exact List.forall_mem_singleton.mpr rfl
        | error failure => exact List.forall_mem_nil _
  cases operation with
  | activate target baseline | peek target baseline =>
      cases own
      rw [storeCalls]
      cases cache.active[key]? with
      | some entry => exact List.forall_mem_nil _
      | none => exact List.forall_mem_singleton.mpr rfl
  | deactivate target =>
      cases own
      rw [storeCalls]
      cases cache.active[key]? with
      | some entry => exact written entry
      | none => exact List.forall_mem_nil _
  | mutate target baseline change =>
      cases own
      rw [storeCalls]
      cases cache.active[key]? with
      | some entry => exact List.forall_mem_nil _
      | none =>
          refine List.forall_mem_cons.mpr ⟨rfl, ?_⟩
          cases EntityCache.load codec key baseline cache.store with
          | ok entry middle => exact written (change entry).2
          | error failure middle => exact List.forall_mem_nil _
  | reconcileAll baseline => cases own
  | addHook => cases own

theorem storeCalls_untargeted {operation : CacheOperation V B R}
    (untargeted : operation.target? = none) (cache : EntityCache δ V) :
    operation.storeCalls codec cache = [] := by
  cases operation with
  | reconcileAll baseline | addHook => rfl
  | _ => cases untargeted

theorem not_mem_close_storeCalls (operation : CacheOperation V B R) (cache : EntityCache δ V) :
    .close ∉ operation.storeCalls codec cache := by
  cases target : operation.target? with
  | some key => exact StoreOperation.not_mem_close_of_concerns (concerns_storeCalls target cache)
  | none =>
      rw [storeCalls_untargeted target]
      exact List.not_mem_nil

/-- The store of a cache goes on being backed, by the ledger that its calls leave. -/
theorem backs_outcome [FaithfulDevice δ] {ledger : Ledger} {config : Config}
    (backs : ledger.Backs config cache.store) (operation : CacheOperation V B R)
    (served : StoreOperation.Spared StoreError.IsRefusal (operation.storeCalls codec cache)
      cache.store) :
    (ledger.runAll config.payloadLimit (operation.storeCalls codec cache)).2.Backs config
      (operation.outcome codec cache).2.store := by
  rw [makes_storeCalls operation cache]
  exact (backs.runAll (not_mem_close_storeCalls operation cache) served).2

theorem exists_backs_runAll [FaithfulDevice δ] {ledger : Ledger} {config : Config}
    (backs : ledger.Backs config cache.store) {operations : List (CacheOperation V B R)}
    (served : StoreOperation.Spared StoreError.IsRefusal (storeCallsOf codec operations cache)
      cache.store) :
    ∃ left : Ledger, left.Backs config (runAll codec operations cache).2.store := by
  induction operations generalizing ledger cache with
  | nil => exact ⟨ledger, backs⟩
  | cons operation rest induction =>
      rcases served.append with ⟨servedFirst, servedRest⟩
      rw [← makes_storeCalls operation cache] at servedRest
      exact induction (backs_outcome backs operation servedFirst) servedRest

/-! ## Active entities apart from the rest -/

/-- The caches differ in nothing but the entry of one entity, which is active in both,
and in what their hooks were told. -/
structure AgreeApart (key : EntityId) (left right : EntityCache δ V) : Prop where
  store : left.store = right.store
  others : ∀ other, key ≠ other → left.active[other]? = right.active[other]?
  leftLive : left.active[key]? ≠ none
  rightLive : right.active[key]? ≠ none

namespace AgreeApart

variable {left right : EntityCache δ V}

omit [ByteDevice δ] in
theorem refl (live : cache.active[key]? ≠ none) : AgreeApart key cache cache :=
  ⟨rfl, fun _ _ => rfl, live, live⟩

/-- What is done to the entity itself does not show elsewhere. -/
theorem own (agree : AgreeApart key left right) {operation : CacheOperation V B R}
    (goesOn : operation ≠ .deactivate key) (own : operation.target? = some key) :
    AgreeApart key (operation.outcome codec left).2 right := by
  rcases Option.ne_none_iff_exists'.mp agree.leftLive with ⟨entry, live⟩
  have active : (operation.outcome codec left).2.active[key]? = _ := active_outcome_locally own left
  have store : (operation.outcome codec left).2.store = _ := store_outcome_locally own left
  rcases locally_of_live codec goesOn own entry left.store with ⟨changed, same⟩
  rw [live, same] at active store
  refine ⟨store.trans agree.store, ?_, ?_, agree.rightLive⟩
  · intro other different
    rw [active_outcome_of_ne own different]
    exact agree.others other different
  · rw [active]
    exact Option.some_ne_none changed

/-- What is done elsewhere is the same in both. -/
theorem elsewhere (agree : AgreeApart key left right) {operation : CacheOperation V B R}
    (foreign : operation.target? ≠ some key) :
    AgreeApart key (operation.outcome codec left).2 (operation.outcome codec right).2 := by
  cases target : operation.target? with
  | some own =>
      rw [target] at foreign
      have different : own ≠ key := fun same => foreign (congrArg some same)
      have entries := agree.others own different.symm
      refine ⟨?_, ?_, ?_, ?_⟩
      · rw [store_outcome_locally target, store_outcome_locally target, entries, agree.store]
      · intro other apart
        by_cases here : own = other
        · rw [← here, active_outcome_locally target, active_outcome_locally target, entries,
            agree.store]
        · rw [active_outcome_of_ne target here, active_outcome_of_ne target here]
          exact agree.others other apart
      · rw [active_outcome_of_ne target different]
        exact agree.leftLive
      · rw [active_outcome_of_ne target different]
        exact agree.rightLive
  | none =>
      cases operation with
      | reconcileAll baseline =>
          refine ⟨?_, ?_, ?_, ?_⟩
          · rw [outcome_reconcileAll, outcome_reconcileAll]
            exact agree.store
          · intro other apart
            rw [active_outcome_reconcileAll, active_outcome_reconcileAll,
              agree.others other apart]
          · rw [active_outcome_reconcileAll]
            exact mt Option.map_eq_none_iff.mp agree.leftLive
          · rw [active_outcome_reconcileAll]
            exact mt Option.map_eq_none_iff.mp agree.rightLive
      | addHook => exact ⟨agree.store, agree.others, agree.leftLive, agree.rightLive⟩
      | activate target baseline => cases target
      | deactivate target => cases target
      | mutate target baseline change => cases target
      | peek target baseline => cases target

/-- A run without the operations on the entity does the same to everything else, as long
as its activity does not end. -/
theorem runAll (agree : AgreeApart key left right) {operations : List (CacheOperation V B R)}
    (goesOn : .deactivate key ∉ operations) :
    AgreeApart key (CacheOperation.runAll codec operations left).2
      (CacheOperation.runAll codec
        (operations.filter fun operation => operation.target? ≠ some key) right).2 := by
  induction operations generalizing left right with
  | nil => exact agree
  | cons operation rest induction =>
      have notFirst : operation ≠ .deactivate key := by
        intro same
        exact goesOn (List.mem_cons.mpr (.inl same.symm))
      have notLater : .deactivate key ∉ rest := by
        intro member
        exact goesOn (List.mem_cons_of_mem _ member)
      by_cases own : operation.target? = some key
      · rw [List.filter_cons_of_neg (by simpa using own)]
        exact induction (agree.own notFirst own) notLater
      · rw [List.filter_cons_of_pos (by simpa using own)]
        exact induction (agree.elsewhere own) notLater

end AgreeApart

end CacheOperation

end PackedRecords
