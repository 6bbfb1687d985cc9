import PackedRecords.Cache.Operation
import PackedRecords.Proofs.Simulation

/-! # Outcomes of cache operations

What each operation comes to, whether it succeeds or fails. It depends on whether its
entity is active: then the live entry is all that it works on, and otherwise the entry
is loaded. An entry that is given up, because its activity ends or because it was
loaded for one change only, is written back. Bringing all entities in line leaves the
same entries in whatever order they are visited.
-/

namespace PackedRecords

namespace ActiveMap

variable {V : Type} {active : ActiveMap V} {key other : EntityId}

theorem getElem?_insert_of_ne (different : key ≠ other) (entry : Entry V) :
    (active.insert key entry)[other]? = active[other]? := by
  rw [Std.ExtTreeMap.getElem?_insert]
  simp only [Std.LawfulEqCmp.compare_eq_iff_eq, if_neg different]

theorem getElem?_erase_of_ne (different : key ≠ other) :
    (active.erase key)[other]? = active[other]? := by
  rw [Std.ExtTreeMap.getElem?_erase]
  simp only [Std.LawfulEqCmp.compare_eq_iff_eq, if_neg different]

/-- An entry that is put in and taken out at once leaves no trace. -/
theorem erase_insert_self (active : ActiveMap V) (key : EntityId) (entry : Entry V) :
    (active.insert key entry).erase key = active.erase key := by
  apply Std.ExtTreeMap.ext_getElem?
  intro other
  by_cases same : key = other
  · rw [same, Std.ExtTreeMap.getElem?_erase_self, Std.ExtTreeMap.getElem?_erase_self]
  · rw [getElem?_erase_of_ne same, getElem?_erase_of_ne same, getElem?_insert_of_ne same]

end ActiveMap

namespace EntityCache

variable {δ V B R α β : Type} {cache : EntityCache δ V}

theorem entry?_run (key : EntityId) (cache : EntityCache δ V) :
    entry? key cache = .ok cache.active[key]? cache :=
  rfl

/-- What follows a call of the store runs on the cache with the store it left. -/
theorem onStore_bind (action : StoreM δ α) (next : α → CacheM δ V β)
    (cache : EntityCache δ V) :
    (onStore action >>= next) cache =
      match action cache.store with
      | .ok value store => next value { cache with store }
      | .error failure store => .error failure { cache with store } := by
  rcases cache with ⟨store, active, hooks, rebuilds⟩
  change EStateM.bind (onStore action) next _ = _
  rw [EStateM.bind, onStore]
  cases action store <;> rfl

/-! ## All active entities -/

section All

variable (codec : EntryCodec V B) (baseline : B) (cache : EntityCache δ V)

/-- The active entries brought in line with a baseline. -/
def realignedEntries : ActiveMap V :=
  cache.active.map fun key entry => realigned codec key baseline entry

/-- What the hooks are told of an entity when it is brought in line. -/
def news (key : EntityId) : List (Rebuild V) :=
  match (realignedEntries codec baseline cache)[key]? with
  | some entry => rebuildsOf cache.hooks key entry.value
  | none => []

variable {codec baseline cache} {key : EntityId} {entry : Entry V}

theorem getElem?_realignedEntries (key : EntityId) :
    (realignedEntries codec baseline cache)[key]? =
      cache.active[key]?.map (realigned codec key baseline) :=
  Std.ExtTreeMap.getElem?_map

theorem realignedEntries_of_live (live : cache.active[key]? = some entry) :
    (realignedEntries codec baseline cache)[key]? = some (realigned codec key baseline entry) := by
  rw [getElem?_realignedEntries, live, Option.map_some]

theorem news_of_live (live : cache.active[key]? = some entry) :
    news codec baseline cache key =
      rebuildsOf cache.hooks key (realigned codec key baseline entry).value := by
  rw [news, realignedEntries_of_live live]

theorem realignedEntries_congr {other : EntityCache δ V}
    (same : other.active[key]? = cache.active[key]?) :
    (realignedEntries codec baseline other)[key]? =
      (realignedEntries codec baseline cache)[key]? := by
  rw [getElem?_realignedEntries, getElem?_realignedEntries, same]

theorem news_congr {other : EntityCache δ V}
    (sameHooks : other.hooks = cache.hooks) (same : other.active[key]? = cache.active[key]?) :
    news codec baseline other key = news codec baseline cache key := by
  rw [news, news, realignedEntries_congr same, sameHooks]

theorem mem_keys_of_perm {keys : List EntityId} (all : keys.Perm cache.activeKeys) :
    key ∈ keys ↔ key ∈ cache.active :=
  all.mem_iff.trans Std.ExtTreeMap.mem_keys

theorem realign_live (live : cache.active[key]? = some entry) :
    realign codec baseline cache key =
      { cache with
        active := cache.active.insert key (realigned codec key baseline entry)
        rebuilds := cache.rebuilds ++ news codec baseline cache key } := by
  rw [news_of_live live, realign, live]

/-- Visiting distinct active entities brings each of them in line and leaves all others. -/
theorem foldl_realign {keys : List EntityId} (distinct : keys.Nodup)
    (active : ∀ key ∈ keys, key ∈ cache.active) :
    ∃ after, keys.foldl (realign codec baseline) cache =
        { cache with
          active := after
          rebuilds := cache.rebuilds ++ keys.flatMap (news codec baseline cache) } ∧
      ∀ key, after[key]? =
        if key ∈ keys then (realignedEntries codec baseline cache)[key]?
        else cache.active[key]? := by
  induction keys generalizing cache with
  | nil =>
      refine ⟨cache.active, ?_, fun key => by rw [if_neg List.not_mem_nil]⟩
      rw [List.flatMap_nil, List.append_nil]
      rfl
  | cons first rest induction =>
      rcases List.nodup_cons.mp distinct with ⟨notLater, restDistinct⟩
      rcases List.forall_mem_cons.mp active with ⟨firstActive, restActive⟩
      rcases Option.isSome_iff_exists.mp (Std.ExtTreeMap.isSome_getElem?_iff_mem.mpr firstActive)
        with ⟨entry, live⟩
      let middle := realign codec baseline cache first
      have step : middle =
          { cache with
            active := cache.active.insert first (realigned codec first baseline entry)
            rebuilds := cache.rebuilds ++ news codec baseline cache first } := realign_live live
      have apart {key : EntityId} (later : key ∈ rest) :
          middle.active[key]? = cache.active[key]? := by
        rw [step]
        exact ActiveMap.getElem?_insert_of_ne (ne_of_mem_of_not_mem later notLater).symm _
      have stillActive : ∀ key ∈ rest, key ∈ middle.active := by
        intro key later
        rw [step]
        exact Std.ExtTreeMap.mem_insert.mpr (.inr (restActive key later))
      have sameHooks : middle.hooks = cache.hooks := by rw [step]
      have laterNews : rest.flatMap (news codec baseline middle) =
          rest.flatMap (news codec baseline cache) :=
        List.flatMap_congr fun key later => news_congr sameHooks (apart later)
      rcases induction restDistinct stillActive with ⟨after, ran, entries⟩
      refine ⟨after, ?_, ?_⟩
      · rw [List.foldl_cons, ran, laterNews, step, List.flatMap_cons, ← List.append_assoc]
      · intro key
        rw [entries]
        by_cases later : key ∈ rest
        · rw [if_pos later, if_pos (List.mem_cons_of_mem _ later),
            realignedEntries_congr (apart later)]
        · rw [if_neg later, step]
          by_cases here : first = key
          · rw [← here, if_pos List.mem_cons_self, realignedEntries_of_live live]
            exact Std.ExtTreeMap.getElem?_insert_self
          · rw [if_neg (List.not_mem_cons_of_ne_of_not_mem (Ne.symm here) later)]
            exact ActiveMap.getElem?_insert_of_ne here _

/-- The order in which all active entities are visited shows only in the order in which
they are told of. -/
theorem foldl_realign_activeKeys {keys : List EntityId} (all : keys.Perm cache.activeKeys) :
    keys.foldl (realign codec baseline) cache =
      { cache with
        active := realignedEntries codec baseline cache
        rebuilds := cache.rebuilds ++ keys.flatMap (news codec baseline cache) } := by
  have distinct : keys.Nodup := all.nodup_iff.mpr Std.ExtTreeMap.nodup_keys
  rcases foldl_realign distinct fun key => (mem_keys_of_perm all).mp with ⟨after, ran, entries⟩
  have same : after = realignedEntries codec baseline cache := by
    apply Std.ExtTreeMap.ext_getElem?
    intro key
    rw [entries]
    by_cases member : key ∈ keys
    · rw [if_pos member]
    · have inactive : cache.active[key]? = none :=
        Std.ExtTreeMap.getElem?_eq_none (mt (mem_keys_of_perm all).mpr member)
      rw [if_neg member, getElem?_realignedEntries, inactive]
      rfl
  rw [ran, same]

theorem reconcileAllIn_run {keys : List EntityId} (all : keys.Perm cache.activeKeys) :
    reconcileAllIn codec keys baseline cache =
      .ok cache.activeCount
        { cache with
          active := realignedEntries codec baseline cache
          rebuilds := cache.rebuilds ++ keys.flatMap (news codec baseline cache) } := by
  have size : (realignedEntries codec baseline cache).size = cache.activeCount :=
    Std.ExtTreeMap.size_map
  rw [reconcileAllIn, foldl_realign_activeKeys all, ← size]
  rfl

theorem reconcileAll_run (baseline : B) (cache : EntityCache δ V) :
    reconcileAll codec baseline cache =
      .ok cache.activeCount
        { cache with
          active := realignedEntries codec baseline cache
          rebuilds := cache.rebuilds ++
            cache.activeKeys.flatMap (news codec baseline cache) } :=
  reconcileAllIn_run (.refl cache.activeKeys)

end All

/-! ## Writing back -/

variable [ByteDevice δ] {codec : EntryCodec V B} {key : EntityId} {entry : Entry V}

/-- Saves an entry that is given up, if it is dirty. -/
def writeBack (codec : EntryCodec V B) (key : EntityId) (entry : Entry V) : StoreM δ Unit :=
  if entry.dirty then save codec key entry else pure ()

theorem writeBack_clean (clean : entry.dirty = false) (store : Store δ) :
    writeBack codec key entry store = .ok () store := by
  rw [writeBack, clean]
  rfl

theorem writeBack_dirty (dirty : entry.dirty = true) :
    (writeBack codec key entry : StoreM δ Unit) = save codec key entry := by
  rw [writeBack, if_pos dirty]

theorem persist_run (key : EntityId) (entry : Entry V) (store : Store δ) :
    persist codec key entry store =
      match save codec key entry store with
      | .ok _ store => .ok entry.markClean store
      | .error failure store => .error failure store := by
  cases saved : save codec key entry store with
  | ok done after => rw [persist, bind_of_ok saved]; rfl
  | error failure after => rw [persist, bind_of_error saved]

/-! ## Active entities -/

section Live

variable (found : cache.active[key]? = some entry)
include found

theorem activate_live (baseline : B) :
    activate codec key baseline cache =
      .ok (realigned codec key baseline entry)
        { cache with
          active := cache.active.insert key (realigned codec key baseline entry)
          rebuilds := cache.rebuilds ++
            rebuildsOf cache.hooks key (realigned codec key baseline entry).value } := by
  rw [activate, bind_of_ok (entry?_run key cache)]
  simp only [found]
  rfl

theorem deactivate_live :
    deactivate codec key cache =
      match writeBack codec key entry cache.store with
      | .ok _ store =>
          .ok entry.dirty { cache with store, active := cache.active.erase key }
      | .error failure store => .error failure { cache with store } := by
  rw [deactivate, bind_of_ok (entry?_run key cache)]
  simp only [found]
  cases dirty : entry.dirty with
  | false =>
      rw [writeBack_clean dirty]
      rfl
  | true =>
      rw [writeBack_dirty dirty, if_pos rfl, onStore_bind, persist_run]
      cases save codec key entry cache.store with
      | error failure store => rfl
      | ok done store =>
          simp only [← ActiveMap.erase_insert_self cache.active key entry.markClean]
          rfl

theorem mutate_live (baseline : B) (change : Entry V → R × Entry V) :
    mutate codec key baseline change cache =
      .ok (change entry).1
        { cache with active := cache.active.insert key (change entry).2 } := by
  rw [mutate, bind_of_ok (entry?_run key cache)]
  simp only [found]
  rfl

theorem peek_live (baseline : B) :
    peek codec key baseline cache = .ok (.active entry.value) cache := by
  rw [peek, bind_of_ok (entry?_run key cache)]
  simp only [found]
  rfl

end Live

/-! ## Inactive entities -/

section Inactive

variable (inactive : cache.active[key]? = none)
include inactive

theorem activate_inactive (baseline : B) :
    activate codec key baseline cache =
      match load codec key baseline cache.store with
      | .ok entry store =>
          .ok entry { cache with store, active := cache.active.insert key entry }
      | .error failure store => .error failure { cache with store } := by
  rw [activate, bind_of_ok (entry?_run key cache)]
  simp only [inactive, onStore_bind]
  cases load codec key baseline cache.store <;> rfl

theorem deactivate_inactive : deactivate codec key cache = .ok false cache := by
  rw [deactivate, bind_of_ok (entry?_run key cache)]
  simp only [inactive]
  rfl

theorem mutate_inactive (baseline : B) (change : Entry V → R × Entry V) :
    mutate codec key baseline change cache =
      match load codec key baseline cache.store with
      | .ok entry store =>
          match writeBack codec key (change entry).2 store with
          | .ok _ store => .ok (change entry).1 { cache with store }
          | .error failure store => .error failure { cache with store }
      | .error failure store => .error failure { cache with store } := by
  rw [mutate, bind_of_ok (entry?_run key cache)]
  simp only [inactive, onStore_bind]
  cases load codec key baseline cache.store with
  | error failure store => rfl
  | ok entry store =>
      cases dirty : (change entry).2.dirty with
      | false =>
          simp only [writeBack_clean dirty]
          rw [if_neg (ne_true_of_eq_false dirty)]
          rfl
      | true =>
          simp only [writeBack_dirty dirty]
          rw [if_pos dirty, onStore_bind, persist_run]
          cases save codec key (change entry).2 store <;> rfl

theorem peek_inactive (baseline : B) :
    peek codec key baseline cache =
      match load codec key baseline cache.store with
      | .ok entry store => .ok (.transient entry.value) { cache with store }
      | .error failure store => .error failure { cache with store } := by
  rw [peek, bind_of_ok (entry?_run key cache)]
  simp only [inactive, onStore_bind]
  cases load codec key baseline cache.store <;> rfl

end Inactive

end EntityCache

end PackedRecords
