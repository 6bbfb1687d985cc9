import PackedRecords.Proofs.Cache.Outcomes
import PackedRecords.Proofs.Store.Served

/-! # How a cache uses its store

Which calls of the store an operation of a cache makes can be told beforehand from the
active entries, and for an offline change from what is loaded. The store afterwards is
the one that these calls leave, on every device and so also on one that notes its calls.
-/

namespace PackedRecords

variable {δ V B R α : Type}

namespace EntryCodec

variable (codec : EntryCodec V B)

/-- The value of an entity whose record has the payload, or which has no record. -/
def loaded (key : EntityId) (baseline : B) : Option ByteArray → Except StoreError V
  | none => .ok (codec.fresh key baseline)
  | some payload => codec.decode key payload baseline

/-- The calls that write an entry back: none if it is clean or cannot be encoded. -/
def writeBackCalls (key : EntityId) (entry : Entry V) : List StoreOperation :=
  if entry.dirty then
    match codec.encode entry.value with
    | .ok payload => [.put key payload]
    | .error _ => []
  else []

variable {codec} {key : EntityId} {entry : Entry V}

theorem writeBackCalls_clean (clean : entry.dirty = false) :
    codec.writeBackCalls key entry = [] := by
  rw [writeBackCalls, if_neg (ne_true_of_eq_false clean)]

theorem writeBackCalls_encoded (dirty : entry.dirty = true) {payload : ByteArray}
    (encoded : codec.encode entry.value = .ok payload) :
    codec.writeBackCalls key entry = [.put key payload] := by
  rw [writeBackCalls, if_pos dirty, encoded]

theorem writeBackCalls_unencodable (dirty : entry.dirty = true) {failure : StoreError}
    (failed : codec.encode entry.value = .error failure) :
    codec.writeBackCalls key entry = [] := by
  rw [writeBackCalls, if_pos dirty, failed]

end EntryCodec

/-! ## Loading and writing back -/

namespace EntityCache

variable [ByteDevice δ] {codec : EntryCodec V B} {key : EntityId} {baseline : B}
  {entry : Entry V} {store middle : Store δ}

theorem load_of_get_ok {found : Option ByteArray}
    (looked : Store.get key store = .ok found middle) :
    load codec key baseline store =
      match codec.loaded key baseline found with
      | .ok value => .ok (.clean value) middle
      | .error failure => .error failure middle := by
  rw [load, bind_of_ok looked]
  cases found with
  | none => rfl
  | some payload =>
      rw [EntryCodec.loaded]
      cases decoded : codec.decode key payload baseline with
      | ok value =>
          simp only [decoded]
          rfl
      | error failure =>
          simp only [decoded]
          rfl

theorem load_of_get_error {failure : StoreError}
    (looked : Store.get key store = .error failure middle) :
    load codec key baseline store = .error failure middle :=
  bind_of_error looked

theorem store_of_load (codec : EntryCodec V B) (key : EntityId) (baseline : B)
    (store : Store δ) :
    finalState (load codec key baseline store) =
      (StoreOperation.runAll [.get key] store).2 := by
  rw [StoreOperation.runAll, StoreOperation.outcome, StoreOperation.run]
  cases looked : Store.get key store with
  | error failure middle =>
      rw [load_of_get_error looked, bind_of_error looked]
      rfl
  | ok found middle =>
      rw [load_of_get_ok looked, bind_of_ok looked]
      cases codec.loaded key baseline found <;> rfl

theorem save_of_encoded {payload : ByteArray}
    (encoded : codec.encode entry.value = .ok payload) :
    (save codec key entry : StoreM δ Unit) = Store.put key payload := by
  rw [save, encoded]
  rfl

theorem save_of_unencodable {failure : StoreError}
    (failed : codec.encode entry.value = .error failure) :
    save codec key entry store = .error failure store := by
  rw [save, failed]
  rfl

theorem store_of_writeBack (codec : EntryCodec V B) (key : EntityId) (entry : Entry V)
    (store : Store δ) :
    finalState (writeBack codec key entry store) =
      (StoreOperation.runAll (codec.writeBackCalls key entry) store).2 := by
  cases dirty : entry.dirty with
  | false =>
      rw [writeBack_clean dirty, EntryCodec.writeBackCalls_clean dirty]
      rfl
  | true =>
      rw [writeBack_dirty dirty]
      cases encoded : codec.encode entry.value with
      | error failure =>
          rw [save_of_unencodable encoded,
            EntryCodec.writeBackCalls_unencodable dirty encoded]
          rfl
      | ok payload =>
          rw [save_of_encoded encoded, EntryCodec.writeBackCalls_encoded dirty encoded,
            StoreOperation.runAll, StoreOperation.outcome, StoreOperation.run]
          cases stored : Store.put key payload store with
          | ok done after =>
              rw [bind_of_ok stored]
              rfl
          | error failure after =>
              rw [bind_of_error stored]
              rfl

end EntityCache

/-! ## Loading what a ledger has -/

namespace Ledger

variable [ByteDevice δ] [FaithfulDevice δ] {ledger : Ledger} {store after : Store δ}
  {codec : EntryCodec V B} {key : EntityId} {baseline : B} {entry : Entry V}

/-- What is loaded is made of the payload that the ledger has, and is clean. -/
theorem Describes.load_ok (describes : ledger.Describes store)
    (sound : FaithfulDevice.Sound store.device)
    (ran : EntityCache.load codec key baseline store = .ok entry after) :
    codec.loaded key baseline (ledger.payload? key) = .ok entry.value ∧ entry.dirty = false ∧
      ledger.Describes after ∧ FaithfulDevice.Sound after.device ∧
      after.config = store.config := by
  cases looked : Store.get key store with
  | error failure middle =>
      rw [EntityCache.load_of_get_error looked] at ran
      cases ran
  | ok found middle =>
      rcases describes.get_ok sound looked with ⟨same, kept⟩
      rw [EntityCache.load_of_get_ok looked, same] at ran
      cases made : codec.loaded key baseline (ledger.payload? key) with
      | error failure =>
          rw [made] at ran
          cases ran
      | ok value =>
          rw [made] at ran
          cases ran
          exact ⟨rfl, rfl, kept⟩

section Loaded

variable (describes : ledger.Describes store) {value : V}
  (loaded : codec.loaded key baseline (ledger.payload? key) = .ok value)
include describes loaded

/-- If the payload can be decoded, loading fails only where the device refuses. -/
theorem Describes.load_error (sound : FaithfulDevice.Sound store.device) {failure : StoreError}
    (ran : EntityCache.load codec key baseline store = .error failure after) :
    failure.IsRefusal := by
  cases looked : Store.get key store with
  | error reason middle =>
      rw [EntityCache.load_of_get_error looked] at ran
      cases ran
      exact describes.get_error sound looked
  | ok found middle =>
      rw [EntityCache.load_of_get_ok looked, (describes.get_ok sound looked).1, loaded] at ran
      cases ran

/-- In memory nothing keeps the entry from being loaded. -/
theorem Describes.load_inMemory :
    ∃ after, EntityCache.load codec key baseline store.inMemory = .ok (.clean value) after := by
  rcases (describes_inMemory.mpr describes).outcome_eq
    (StoreOperation.noConfusion : StoreOperation.get key ≠ .close) with ⟨after, answered, _⟩
  rw [StoreOperation.outcome, StoreOperation.run] at answered
  cases looked : Store.get key store.inMemory with
  | error failure middle =>
      rw [bind_of_error looked] at answered
      cases answered
  | ok found middle =>
      rw [bind_of_ok looked] at answered
      cases answered
      exact ⟨after, by rw [EntityCache.load_of_get_ok looked, loaded]⟩

end Loaded

end Ledger

/-! ## Calls of an operation -/

namespace CacheOperation

variable [ByteDevice δ] (codec : EntryCodec V B)

/-- The calls of the store that an operation makes. -/
def storeCalls (operation : CacheOperation V B R) (cache : EntityCache δ V) :
    List StoreOperation :=
  match operation with
  | activate key _ | peek key _ =>
      match cache.active[key]? with
      | some _ => []
      | none => [.get key]
  | deactivate key =>
      match cache.active[key]? with
      | some entry => codec.writeBackCalls key entry
      | none => []
  | mutate key baseline change =>
      match cache.active[key]? with
      | some _ => []
      | none =>
          .get key ::
            match EntityCache.load codec key baseline cache.store with
            | .ok entry _ => codec.writeBackCalls key (change entry).2
            | .error _ _ => []
  | reconcileAll _ | addHook => []

/-- The calls of the store that a run makes. -/
def storeCallsOf (operations : List (CacheOperation V B R)) (cache : EntityCache δ V) :
    List StoreOperation :=
  match operations with
  | [] => []
  | operation :: rest =>
      operation.storeCalls codec cache ++ storeCallsOf rest (operation.outcome codec cache).2

/-- The store afterwards is the one that the calls leave. -/
def Makes (calls : List StoreOperation) (operation : CacheOperation V B R)
    (cache : EntityCache δ V) : Prop :=
  (operation.outcome codec cache).2.store = (StoreOperation.runAll calls cache.store).2

variable {codec} {cache : EntityCache δ V} {key : EntityId}

/-! ## Outcomes -/

/-- An answer, wrapped up, or a failure, and the state afterwards. -/
def answered {ε σ β : Type} (wrap : α → β) : EStateM.Result ε σ α → Except ε β × σ
  | .ok value after => (.ok (wrap value), after)
  | .error failure after => (.error failure, after)

@[simp] theorem snd_answered {ε σ β : Type} (wrap : α → β) (result : EStateM.Result ε σ α) :
    (answered wrap result).2 = finalState result := by
  cases result <;> rfl

theorem outcome_of_run {operation : CacheOperation V B R} {action : CacheM δ V α}
    {wrap : α → CacheAnswer V R}
    (made : operation.run codec = action >>= fun value => pure (wrap value)) :
    operation.outcome codec cache = answered wrap (action cache) := by
  rw [outcome, made]
  cases ran : action cache with
  | ok value after =>
      rw [bind_of_ok ran]
      rfl
  | error failure after =>
      rw [bind_of_error ran]
      rfl

theorem outcome_activate (key : EntityId) (baseline : B) :
    (activate key baseline : CacheOperation V B R).outcome codec cache =
      answered .entry (EntityCache.activate codec key baseline cache) :=
  outcome_of_run rfl

theorem outcome_deactivate (key : EntityId) :
    (deactivate key : CacheOperation V B R).outcome codec cache =
      answered .saved (EntityCache.deactivate codec key cache) :=
  outcome_of_run rfl

theorem outcome_mutate (key : EntityId) (baseline : B) (change : Entry V → R × Entry V) :
    (mutate key baseline change).outcome codec cache =
      answered .result (EntityCache.mutate codec key baseline change cache) :=
  outcome_of_run rfl

theorem outcome_peek (key : EntityId) (baseline : B) :
    (peek key baseline : CacheOperation V B R).outcome codec cache =
      answered .peeked (EntityCache.peek codec key baseline cache) :=
  outcome_of_run rfl

theorem outcome_reconcileAll (baseline : B) :
    (reconcileAll baseline : CacheOperation V B R).outcome codec cache =
      (.ok (.number cache.activeCount),
        { cache with
          active := EntityCache.realignedEntries codec baseline cache
          rebuilds := cache.rebuilds ++
            cache.activeKeys.flatMap (EntityCache.news codec baseline cache) }) := by
  rw [outcome_of_run rfl, EntityCache.reconcileAll_run]
  rfl

/-! ## What the calls leave -/

theorem makes_storeCalls (operation : CacheOperation V B R) (cache : EntityCache δ V) :
    Makes codec (operation.storeCalls codec cache) operation cache := by
  cases operation with
  | activate key baseline =>
      rw [Makes, outcome_activate, snd_answered, storeCalls]
      cases live : cache.active[key]? with
      | some entry =>
          rw [EntityCache.activate_live live]
          rfl
      | none =>
          have left := EntityCache.store_of_load codec key baseline cache.store
          rw [EntityCache.activate_inactive live, ← left]
          cases EntityCache.load codec key baseline cache.store <;> rfl
  | deactivate key =>
      rw [Makes, outcome_deactivate, snd_answered, storeCalls]
      cases live : cache.active[key]? with
      | some entry =>
          have left := EntityCache.store_of_writeBack codec key entry cache.store
          rw [EntityCache.deactivate_live live, ← left]
          cases EntityCache.writeBack codec key entry cache.store <;> rfl
      | none =>
          rw [EntityCache.deactivate_inactive live]
          rfl
  | mutate key baseline change =>
      rw [Makes, outcome_mutate, snd_answered, storeCalls]
      cases live : cache.active[key]? with
      | some entry =>
          rw [EntityCache.mutate_live live]
          rfl
      | none =>
          have read := EntityCache.store_of_load codec key baseline cache.store
          rw [EntityCache.mutate_inactive live]
          simp only []
          rw [← List.singleton_append, StoreOperation.runAll_append, ← read]
          cases EntityCache.load codec key baseline cache.store with
          | error failure middle => rfl
          | ok entry middle =>
              have left := EntityCache.store_of_writeBack codec key (change entry).2 middle
              simp only [finalState] at left ⊢
              rw [← left]
              cases EntityCache.writeBack codec key (change entry).2 middle <;> rfl
  | peek key baseline =>
      rw [Makes, outcome_peek, snd_answered, storeCalls]
      cases live : cache.active[key]? with
      | some entry =>
          rw [EntityCache.peek_live live]
          rfl
      | none =>
          have left := EntityCache.store_of_load codec key baseline cache.store
          rw [EntityCache.peek_inactive live, ← left]
          cases EntityCache.load codec key baseline cache.store <;> rfl
  | reconcileAll baseline =>
      rw [Makes, outcome_reconcileAll]
      rfl
  | addHook => rfl

theorem makes_of_storeCalls {calls : List StoreOperation} {operation : CacheOperation V B R}
    (same : operation.storeCalls codec cache = calls) : Makes codec calls operation cache := by
  rw [← same]
  exact makes_storeCalls operation cache

theorem storeCalls_deactivate {entry : Entry V} (live : cache.active[key]? = some entry) :
    (deactivate key : CacheOperation V B R).storeCalls codec cache =
      codec.writeBackCalls key entry := by
  rw [storeCalls, live]

theorem storeCalls_mutate_offline (inactive : cache.active[key]? = none) {baseline : B}
    {entry : Entry V} {store : Store δ}
    (loaded : EntityCache.load codec key baseline cache.store = .ok entry store)
    (change : Entry V → R × Entry V) :
    (mutate key baseline change).storeCalls codec cache =
      .get key :: codec.writeBackCalls key (change entry).2 := by
  rw [storeCalls, inactive]
  simp only [loaded]

theorem store_of_runAll (operations : List (CacheOperation V B R)) (cache : EntityCache δ V) :
    (runAll codec operations cache).2.store =
      (StoreOperation.runAll (storeCallsOf codec operations cache) cache.store).2 := by
  induction operations generalizing cache with
  | nil => rfl
  | cons operation rest induction =>
      rw [runAll, storeCallsOf, StoreOperation.runAll_append,
        ← makes_storeCalls operation cache]
      exact induction _

end CacheOperation

end PackedRecords
