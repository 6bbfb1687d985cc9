import PackedRecords.Proofs.Cache.CleanEntries
import PackedRecords.Proofs.Store.Oversized
import PackedRecords.Proofs.Store.Retained

/-! # Failed operations of a cache

An operation of a cache fails where an entry is loaded or written back, and no entry has
been changed by then: one that cannot be loaded has not been registered, and one that
cannot be written back is given up only afterwards. If the failure lies with the value,
nothing has been written either, and the entry can be saved once its value can be.
-/

namespace PackedRecords

variable {δ V B R : Type}

/-! ## Where operations fail -/

namespace EntityCache

variable [ByteDevice δ] {codec : EntryCodec V B} {cache after : EntityCache δ V}
  {key : EntityId} {baseline : B} {failure : StoreError}

theorem activate_error (ran : activate codec key baseline cache = .error failure after) :
    cache.active[key]? = none ∧
      load codec key baseline cache.store = .error failure after.store ∧
      after = { cache with store := after.store } := by
  cases live : cache.active[key]? with
  | some entry =>
      rw [activate_live live] at ran
      cases ran
  | none =>
      rw [activate_inactive live] at ran
      cases loaded : load codec key baseline cache.store with
      | ok entry store =>
          rw [loaded] at ran
          cases ran
      | error reason store =>
          rw [loaded] at ran
          cases ran
          exact ⟨rfl, rfl, rfl⟩

theorem deactivate_error (ran : deactivate codec key cache = .error failure after) :
    ∃ entry, cache.active[key]? = some entry ∧
      writeBack codec key entry cache.store = .error failure after.store ∧
      after = { cache with store := after.store } := by
  cases live : cache.active[key]? with
  | none =>
      rw [deactivate_inactive live] at ran
      cases ran
  | some entry =>
      rw [deactivate_live live] at ran
      cases saved : writeBack codec key entry cache.store with
      | ok done store =>
          rw [saved] at ran
          cases ran
      | error reason store =>
          rw [saved] at ran
          cases ran
          exact ⟨entry, rfl, saved, rfl⟩

theorem mutate_error {change : Entry V → R × Entry V}
    (ran : mutate codec key baseline change cache = .error failure after) :
    (load codec key baseline cache.store = .error failure after.store ∨
      ∃ entry middle, load codec key baseline cache.store = .ok entry middle ∧
        writeBack codec key (change entry).2 middle = .error failure after.store) ∧
      after = { cache with store := after.store } := by
  cases live : cache.active[key]? with
  | some entry =>
      rw [mutate_live live] at ran
      cases ran
  | none =>
      rw [mutate_inactive live] at ran
      cases loaded : load codec key baseline cache.store with
      | error reason store =>
          rw [loaded] at ran
          cases ran
          exact ⟨.inl rfl, rfl⟩
      | ok entry middle =>
          simp only [loaded] at ran
          cases saved : writeBack codec key (change entry).2 middle with
          | ok done store =>
              rw [saved] at ran
              cases ran
          | error reason store =>
              rw [saved] at ran
              cases ran
              exact ⟨.inr ⟨entry, middle, rfl, saved⟩, rfl⟩

theorem peek_unloaded (ran : peek codec key baseline cache = .error failure after) :
    load codec key baseline cache.store = .error failure after.store ∧
      after = { cache with store := after.store } := by
  rcases peek_error ran with ⟨inactive, store, unloaded⟩
  rw [peek_inactive inactive, unloaded] at ran
  cases ran
  exact ⟨unloaded, rfl⟩

end EntityCache

namespace CacheOperation

theorem error_of_answered {ε σ α β : Type} {wrap : α → β} {result : EStateM.Result ε σ α}
    {failure : ε} {after : σ} (failed : answered wrap result = (.error failure, after)) :
    result = .error failure after := by
  cases result with
  | ok value final => cases failed
  | error reason final =>
      cases failed
      rfl

variable [ByteDevice δ]

/-- The step in which an operation fails, and the store that the step leaves. -/
inductive FailsAt (codec : EntryCodec V B) (cache : EntityCache δ V) (failure : StoreError)
    (final : Store δ) : CacheOperation V B R → Prop where
  | activating {key : EntityId} {baseline : B} (inactive : cache.active[key]? = none)
      (unloaded : EntityCache.load codec key baseline cache.store = .error failure final) :
      FailsAt codec cache failure final (.activate key baseline)
  | peeking {key : EntityId} {baseline : B}
      (unloaded : EntityCache.load codec key baseline cache.store = .error failure final) :
      FailsAt codec cache failure final (.peek key baseline)
  | loading {key : EntityId} {baseline : B} {change : Entry V → R × Entry V}
      (unloaded : EntityCache.load codec key baseline cache.store = .error failure final) :
      FailsAt codec cache failure final (.mutate key baseline change)
  | saving {key : EntityId} {baseline : B} {change : Entry V → R × Entry V} {entry : Entry V}
      {middle : Store δ}
      (loaded : EntityCache.load codec key baseline cache.store = .ok entry middle)
      (unsaved : EntityCache.writeBack codec key (change entry).2 middle = .error failure final) :
      FailsAt codec cache failure final (.mutate key baseline change)
  | ending {key : EntityId} {entry : Entry V} (live : cache.active[key]? = some entry)
      (unsaved : EntityCache.writeBack codec key entry cache.store = .error failure final) :
      FailsAt codec cache failure final (.deactivate key)

/-- A failed operation has changed nothing but the store. -/
theorem failsAt_of_error {codec : EntryCodec V B} {cache after : EntityCache δ V}
    {failure : StoreError} {operation : CacheOperation V B R}
    (failed : operation.outcome codec cache = (.error failure, after)) :
    operation.FailsAt codec cache failure after.store ∧
      after = { cache with store := after.store } := by
  cases operation with
  | activate key baseline =>
      rw [outcome_activate] at failed
      rcases EntityCache.activate_error (error_of_answered failed) with
        ⟨inactive, unloaded, same⟩
      exact ⟨.activating inactive unloaded, same⟩
  | deactivate key =>
      rw [outcome_deactivate] at failed
      rcases EntityCache.deactivate_error (error_of_answered failed) with
        ⟨entry, live, unsaved, same⟩
      exact ⟨.ending live unsaved, same⟩
  | mutate key baseline change =>
      rw [outcome_mutate] at failed
      rcases EntityCache.mutate_error (error_of_answered failed) with
        ⟨unloaded | ⟨entry, middle, loaded, unsaved⟩, same⟩
      · exact ⟨.loading unloaded, same⟩
      · exact ⟨.saving loaded unsaved, same⟩
  | peek key baseline =>
      rw [outcome_peek] at failed
      rcases EntityCache.peek_unloaded (error_of_answered failed) with ⟨unloaded, same⟩
      exact ⟨.peeking unloaded, same⟩
  | reconcileAll baseline => cases failed
  | addHook => cases failed

end CacheOperation

/-! ## What a failed step leaves -/

namespace EntityCache

variable {codec : EntryCodec V B} {key : EntityId} {entry : Entry V} {failure : StoreError}

/-- Loading only reads. -/
theorem keeps_load [Medium δ] [ReadsInPlace δ] {original : Store δ} (codec : EntryCodec V B)
    (key : EntityId) (baseline : B) :
    Keeps (Store.Intact original) (load codec key baseline) (fun _ => True) := by
  refine (Store.Intact.keeps_get key).bind fun found _ => ?_
  cases found with
  | none => exact keeps_pure trivial
  | some payload =>
      simp only []
      cases codec.decode key payload baseline with
      | ok value => exact keeps_pure trivial
      | error failure => exact keeps_throw_bind failure _

variable [ByteDevice δ] {store final : Store δ}
  (unsaved : writeBack codec key entry store = .error failure final)
include unsaved

theorem dirty_of_writeBack_error : entry.dirty = true := by
  cases dirty : entry.dirty with
  | true => rfl
  | false =>
      rw [writeBack_clean dirty] at unsaved
      cases unsaved

/-- A value that is refused has not got as far as the device. -/
theorem eq_of_writeBack_error (ofValue : failure.IsOfValue) : final = store := by
  rw [writeBack_dirty (dirty_of_writeBack_error unsaved)] at unsaved
  cases encoded : codec.encode entry.value with
  | error reason =>
      rw [save_of_unencodable encoded] at unsaved
      cases unsaved
      rfl
  | ok payload =>
      rw [save_of_encoded encoded] at unsaved
      exact (Store.put_error_of_value unsaved ofValue).2.2

end EntityCache

/-- If the failure lies with the value, the bytes and what leads to them are as before. -/
theorem CacheOperation.FailsAt.intact [Medium δ] [ReadsInPlace δ] {codec : EntryCodec V B}
    {cache : EntityCache δ V} {failure : StoreError} {final : Store δ}
    {operation : CacheOperation V B R} (fails : operation.FailsAt codec cache failure final)
    (ofValue : failure.IsOfValue) : cache.store.Intact final := by
  have start := Store.Intact.refl cache.store
  cases fails with
  | activating _ unloaded | peeking unloaded | loading unloaded =>
      exact (EntityCache.keeps_load codec _ _).error start unloaded
  | saving loaded unsaved =>
      rw [EntityCache.eq_of_writeBack_error unsaved ofValue]
      exact ((EntityCache.keeps_load codec _ _).ok start loaded).1
  | ending _ unsaved =>
      rw [EntityCache.eq_of_writeBack_error unsaved ofValue]
      exact start

/-! ## Saving after all -/

/-- A payload within the limit is put on a described store, unless the device refuses. -/
theorem Ledger.Describes.put_of_served [ByteDevice δ] [FaithfulDevice δ] {ledger : Ledger}
    {store : Store δ} (describes : ledger.Describes store)
    (sound : FaithfulDevice.Sound store.device) {key : EntityId} {payload : ByteArray}
    (short : payload.size ≤ store.config.payloadLimit)
    (served : ∀ failure, ((StoreOperation.put key payload).outcome store).1 = .error failure →
      ¬failure.IsRefusal) :
    ∃ after, Store.put key payload store = .ok () after ∧
      (ledger.put key payload).Describes after := by
  have answer := (describes.outcome_of_served sound (.put key payload)
    StoreOperation.noConfusion served).1
  rw [apply, if_neg (Nat.not_lt.mpr short), StoreOperation.outcome, StoreOperation.run] at answer
  cases stored : Store.put key payload store with
  | ok done after => exact ⟨after, rfl, (describes.put_ok sound stored).2.1⟩
  | error failure after =>
      rw [bind_of_error stored] at answer
      cases answer

/-- The end of the activity of a dirty entry comes to the put of its payload. -/
theorem CacheOperation.outcome_deactivate_dirty [ByteDevice δ] {codec : EntryCodec V B}
    {cache : EntityCache δ V} {key : EntityId} {entry : Entry V}
    (live : cache.active[key]? = some entry) (dirty : entry.dirty = true) {payload : ByteArray}
    (encoded : codec.encode entry.value = .ok payload) :
    (deactivate key : CacheOperation V B R).outcome codec cache =
      match Store.put key payload cache.store with
      | .ok _ store => (.ok (.saved true), { cache with store, active := cache.active.erase key })
      | .error failure store => (.error failure, { cache with store }) := by
  rw [outcome_deactivate, EntityCache.deactivate_live live, EntityCache.writeBack_dirty dirty,
    EntityCache.save_of_encoded encoded, dirty]
  cases Store.put key payload cache.store <;> rfl

/-- An operation that fails leaves the active entries as they were, with their values and
flags, whatever the reason and whatever state the store is in: an entity that could not be
activated is not active, and one that could not be saved is active and dirty. If the
failure lies with the value, because it cannot be encoded or decoded or is too large, no
byte and no index entry has changed either. The end of the activity of a dirty entry comes
to the put of its current payload, after which it is given up. So on a store of whole
records, however many operations have failed before, an entry whose payload has become
short enough is saved as soon as the device does not refuse, and other payloads stay. -/
theorem EntityCache.failed_operation [Medium δ] [ReadsInPlace δ] [FaithfulDevice δ]
    (codec : EntryCodec V B) (cache : EntityCache δ V) :
    (∀ (operation : CacheOperation V B R) (failure : StoreError) (after : EntityCache δ V),
      operation.outcome codec cache = (.error failure, after) →
        after = { cache with store := after.store } ∧
        (∀ key baseline, operation = .activate key baseline → after.active[key]? = none) ∧
        (∀ key, operation = .deactivate key →
          ∃ entry, after.active[key]? = some entry ∧ entry.dirty = true) ∧
        (failure.IsOfValue → cache.store.Intact after.store)) ∧
    (∀ (key : EntityId) (entry : Entry V) (payload : ByteArray),
      cache.active[key]? = some entry → entry.dirty = true →
      codec.encode entry.value = .ok payload →
        (.deactivate key : CacheOperation V B R).outcome codec cache =
          match Store.put key payload cache.store with
          | .ok _ store =>
              (.ok (.saved true), { cache with store, active := cache.active.erase key })
          | .error failure store => (.error failure, { cache with store })) ∧
    ∀ ledger : Ledger, ledger.Describes cache.store → FaithfulDevice.Sound cache.store.device →
      ∀ (operations : List (CacheOperation V B R)) (later : EntityCache δ V),
        (CacheOperation.runAll codec operations cache).2 = later →
        StoreOperation.Spared StoreError.IsRefusal
          (CacheOperation.storeCallsOf codec operations cache) cache.store →
        ∀ (key : EntityId) (entry : Entry V) (payload : ByteArray),
          later.active[key]? = some entry → entry.dirty = true →
          codec.encode entry.value = .ok payload →
          payload.size ≤ cache.store.config.payloadLimit →
          (∀ failure, ((StoreOperation.put key payload).outcome later.store).1 =
            .error failure → ¬failure.IsRefusal) →
          ∃ after, (.deactivate key : CacheOperation V B R).outcome codec later =
              (.ok (.saved true), after) ∧
            after.active = later.active.erase key ∧
            ∀ other, after.store.lookUp other =
              if key = other then .ok (some payload) else later.store.lookUp other := by
  refine ⟨?_, ?_, ?_⟩
  · intro operation failure after failed
    rcases CacheOperation.failsAt_of_error failed with ⟨fails, same⟩
    have entries : after.active = cache.active := by rw [same]
    refine ⟨same, ?_, ?_, fails.intact⟩
    · intro key baseline activating
      subst activating
      cases fails with
      | activating inactive _ => rw [entries, inactive]
    · intro key ending
      subst ending
      cases fails with
      | ending live unsaved =>
          exact ⟨_, by rw [entries, live], dirty_of_writeBack_error unsaved⟩
  · intro key entry payload live dirty encoded
    exact CacheOperation.outcome_deactivate_dirty live dirty encoded
  · intro ledger describes sound operations later reached served key entry payload live dirty
      encoded short putServed
    have backs : ledger.Backs cache.store.config cache.store := ⟨describes, sound, rfl⟩
    rcases CacheOperation.exists_backs_runAll backs served with ⟨left, laterBacks⟩
    rw [reached] at laterBacks
    rw [← laterBacks.config] at short
    rcases laterBacks.describes.put_of_served laterBacks.sound short putServed with
      ⟨stored, ran, storedDescribes⟩
    refine ⟨{ later with store := stored, active := later.active.erase key }, ?_, rfl, ?_⟩
    · rw [CacheOperation.outcome_deactivate_dirty live dirty encoded, ran]
    · intro other
      change stored.lookUp other = _
      rw [storedDescribes.lookUp_eq, laterBacks.describes.lookUp_eq,
        Ledger.payload?_put laterBacks.describes.recorded]
      split <;> rfl

namespace RoleLines

/-- Takes all roles but the first away from an entity, active or not. -/
def keepingFirst (key : EntityId) : CacheOperation RoleLines (List String) Unit :=
  .mutate key [] fun entry =>
    ((), entry.modify fun roles => { roles with granted := roles.granted.take 1 })

/-- An entity is given two roles, which are too long for the store together. -/
def crowdedRun : List (CacheOperation RoleLines (List String) Unit) :=
  [.activate (.ofPool 1) [], adding "admin" (.ofPool 1), adding "operator" (.ofPool 1)]

def leaving (key : EntityId) : CacheOperation RoleLines (List String) Unit :=
  .deactivate key

/-- The entity cannot be saved and stays active, and nothing is written. Once the second
role has been taken away from it, it can be saved. -/
theorem failed_operation_shortened :
    ∃ crowded failed after : EntityCache Memory RoleLines,
      (CacheOperation.runAll codec crowdedRun
        (.ofStore (Store.opened { maxPayloadSize := 8 } []))).2 = crowded ∧
      (leaving (.ofPool 1)).outcome codec crowded = (.error (.payloadTooLarge 14 8), failed) ∧
      (∃ entry, failed.active[EntityId.ofPool 1]? = some entry ∧ entry.dirty = true) ∧
      Medium.contents failed.store.device = some ByteArray.empty ∧
      (leaving (.ofPool 1)).outcome codec
          (CacheOperation.runAll codec [keepingFirst (.ofPool 1)] failed).2 =
        (.ok (.saved true), after) ∧
      after.active[EntityId.ofPool 1]? = none ∧
      after.store.lookUp (.ofPool 1) = .ok (some "admin".toUTF8) := by
  let start : EntityCache Memory RoleLines := .ofStore (Store.opened { maxPayloadSize := 8 } [])
  let crowded := (CacheOperation.runAll codec crowdedRun start).2
  let failed := ((leaving (.ofPool 1)).outcome codec crowded).2
  let later := (CacheOperation.runAll codec [keepingFirst (.ofPool 1)] failed).2
  have refused : ((leaving (.ofPool 1)).outcome codec crowded).1 =
      .error (.payloadTooLarge 14 8) := by decide +kernel
  rcases (EntityCache.failed_operation codec crowded).1 (leaving (.ofPool 1)) _ failed
    (Prod.ext refused rfl) with ⟨_, _, kept, intact⟩
  have nothing : Medium.contents crowded.store.device = some ByteArray.empty := by
    decide +kernel
  have within : AllWithin ({ maxPayloadSize := 8 } : Config).payloadLimit [] :=
    List.forall_mem_nil _
  have answered : (StoreOperation.runAll (CacheOperation.storeCallsOf codec
      (crowdedRun ++ [leaving (.ofPool 1), keepingFirst (.ofPool 1)]) start)
        start.store).1.all (fun answer => answer.isOk ||
          answer = .error (.payloadTooLarge 14 8)) = true := by decide +kernel
  have served : StoreOperation.Spared StoreError.IsRefusal (CacheOperation.storeCallsOf codec
      (crowdedRun ++ [leaving (.ofPool 1), keepingFirst (.ofPool 1)]) start) start.store := by
    intro failure member
    have answer := List.all_eq_true.mp answered _ member
    simp only [Except.isOk, Except.toBool, Bool.false_or, decide_eq_true_eq] at answer
    cases answer
    exact id
  have live : later.active[EntityId.ofPool 1]? = some ⟨⟨["admin"], "", .fresh, 0⟩, true⟩ := by
    decide +kernel
  have stored : ((StoreOperation.put (.ofPool 1) "admin".toUTF8).outcome later.store).1 =
      .ok .done := by decide +kernel
  rcases (EntityCache.failed_operation codec start).2.2 (.ofRecords [])
      (Ledger.describes_opened within) (FaithfulDevice.sound_memory _) _ later rfl served
      (.ofPool 1) _ "admin".toUTF8 live rfl (by decide +kernel) (by decide +kernel)
      (by rw [stored]; nofun) with ⟨after, ended, evicted, found⟩
  refine ⟨crowded, failed, after, rfl, Prod.ext refused rfl, kept _ rfl,
    (intact trivial).contents.trans nothing, ended, ?_, found _⟩
  rw [evicted, Std.ExtTreeMap.getElem?_erase_self]

end RoleLines

end PackedRecords
