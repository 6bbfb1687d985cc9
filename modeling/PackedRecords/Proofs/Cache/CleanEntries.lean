import PackedRecords.Proofs.Cache.Locality
import PackedRecords.Proofs.Cache.Transparency
import PackedRecords.Proofs.Store.Opening
import PackedRecords.Roles.RoleLines

/-! # Clean entries can be dropped

A clean entry is what loading its entity again would make of the record, with the
baseline that the entity was activated with. The store changes under it, but only in the
records of other keys, since nothing but the end of its activity writes the record of an
active entity.
-/

namespace PackedRecords

variable {δ V B R : Type}

/-! ## Activations -/

namespace CacheOperation

/-- The baseline of an activation of the entity. -/
def activation? (key : EntityId) : CacheOperation V B R → Option B
  | activate target baseline => if target = key then some baseline else none
  | _ => none

/-- The baseline that an entity was last activated with after a run, given the one
before it. -/
def latestActivation? (key : EntityId) (latest : Option B) :
    List (CacheOperation V B R) → Option B
  | [] => latest
  | operation :: rest => latestActivation? key ((operation.activation? key).or latest) rest

variable {operation : CacheOperation V B R} {key : EntityId}

theorem activation?_of_target?_ne (foreign : operation.target? ≠ some key) :
    operation.activation? key = none := by
  cases operation with
  | activate target baseline =>
      have different : target ≠ key := fun same => foreign (congrArg some same)
      rw [activation?, if_neg different]
  | _ => rfl

variable [ByteDevice δ] {codec : EntryCodec V B} {cache : EntityCache δ V}

/-- An entry that is clean after an operation was there before, or has just been loaded. -/
theorem cases_of_clean {live : Option (Entry V)} {store : Store δ} {entry : Entry V}
    (tracked : operation.Tracked) (own : operation.target? = some key)
    (left : (operation.locally codec live store).1 = some entry) (clean : entry.dirty = false) :
    (live = some entry ∧ operation ≠ .deactivate key ∧ operation.activation? key = none) ∨
      live = none ∧ ∃ baseline after, operation = .activate key baseline ∧
        EntityCache.load codec key baseline store = .ok entry after := by
  cases operation with
  | activate target baseline =>
      cases own
      cases live with
      | some old =>
          cases left
          cases clean
      | none =>
          rw [locally] at left
          cases loaded : EntityCache.load codec key baseline store with
          | ok found after =>
              rw [loaded] at left
              cases left
              exact .inr ⟨rfl, baseline, after, rfl, loaded⟩
          | error failure after =>
              rw [loaded] at left
              cases left
  | deactivate target =>
      cases own
      cases live with
      | some old =>
          rw [locally] at left
          cases written : EntityCache.writeBack codec key old store with
          | ok done after =>
              rw [written] at left
              cases left
          | error failure after =>
              rw [written] at left
              cases left
              rw [EntityCache.writeBack_clean clean] at written
              cases written
      | none => cases left
  | mutate target baseline change =>
      cases own
      cases live with
      | some old =>
          cases left
          rcases tracked old with unchanged | dirty
          · refine .inl ⟨by rw [unchanged], ?_, rfl⟩
            intro ends
            cases ends
          · rw [clean] at dirty
            cases dirty
      | none =>
          rw [locally] at left
          cases loaded : EntityCache.load codec key baseline store <;>
            (rw [loaded] at left; cases left)
  | peek target baseline =>
      cases own
      cases live with
      | some old =>
          cases left
          refine .inl ⟨rfl, ?_, rfl⟩
          intro ends
          cases ends
      | none => cases left
  | reconcileAll baseline => cases own
  | addHook => cases own

end CacheOperation

/-! ## Clean entries along a run -/

theorem Entry.eq_clean {entry : Entry V} (clean : entry.dirty = false) :
    entry = .clean entry.value := by
  cases entry
  cases clean
  rfl

open CacheOperation

/-- Every clean entry is what the payload of its key and the baseline of the latest
activation make. -/
def CleanAsStored (codec : EntryCodec V B) (ledger : Ledger) (latest : EntityId → Option B)
    (active : ActiveMap V) : Prop :=
  ∀ key entry, active[key]? = some entry → entry.dirty = false →
    ∃ baseline, latest key = some baseline ∧
      codec.loaded key baseline (ledger.payload? key) = .ok entry.value

namespace CleanAsStored

variable [ByteDevice δ] [FaithfulDevice δ] {codec : EntryCodec V B} {ledger : Ledger}
  {config : Config} {latest : EntityId → Option B} {cache : EntityCache δ V}
  (asStored : CleanAsStored codec ledger latest cache.active)
  (backs : ledger.Backs config cache.store)
include asStored backs

theorem step {operation : CacheOperation V B R} (tracked : operation.Tracked) :
    CleanAsStored codec
      (ledger.runAll config.payloadLimit (operation.storeCalls codec cache)).2
      (fun key => (operation.activation? key).or (latest key))
      (operation.outcome codec cache).2.active := by
  intro key entry found clean
  cases target : operation.target? with
  | some own =>
      by_cases here : own = key
      · subst here
        rw [active_outcome_locally target] at found
        rcases cases_of_clean tracked target found clean with
          ⟨live, goesOn, noActivation⟩ | ⟨inactive, baseline, after, activated, loaded⟩
        · rw [storeCalls_live live target goesOn]
          simp only [noActivation, Option.none_or]
          exact asStored own entry live clean
        · rw [activated, storeCalls, inactive]
          simp only [activation?, if_true]
          exact ⟨baseline, rfl, (backs.describes.load_ok backs.sound loaded).1⟩
      · rw [active_outcome_of_ne target here] at found
        have foreign : operation.target? ≠ some key := by
          rw [target]
          exact fun same => here (Option.some.inj same)
        rw [Ledger.payload?_runAll_of_concerns here (concerns_storeCalls target cache)]
        simp only [activation?_of_target?_ne foreign, Option.none_or]
        exact asStored key entry found clean
  | none =>
      cases operation with
      | reconcileAll baseline =>
          rw [active_outcome_reconcileAll, Option.map_eq_some_iff] at found
          rcases found with ⟨old, _, same⟩
          rw [← same] at clean
          cases clean
      | addHook => exact asStored key entry found clean
      | _ => cases target

theorem runAll {operations : List (CacheOperation V B R)}
    (tracked : ∀ operation ∈ operations, operation.Tracked)
    (served : StoreOperation.Spared StoreError.IsRefusal (storeCallsOf codec operations cache)
      cache.store) :
    ∃ left : Ledger, left.Backs config (CacheOperation.runAll codec operations cache).2.store ∧
      CleanAsStored codec left (fun key => latestActivation? key (latest key) operations)
        (CacheOperation.runAll codec operations cache).2.active := by
  induction operations generalizing ledger latest cache with
  | nil => exact ⟨ledger, backs, asStored⟩
  | cons operation rest induction =>
      rcases List.forall_mem_cons.mp tracked with ⟨trackedFirst, trackedRest⟩
      rcases served.append with ⟨servedFirst, servedRest⟩
      rw [← makes_storeCalls operation cache] at servedRest
      exact induction (asStored.step backs trackedFirst)
        (backs_outcome backs operation servedFirst) trackedRest servedRest

end CleanAsStored

/-- A clean entry is exactly what loading its entity again would give, with the baseline
it was activated with, which is that of the latest activation, since another one would have
left it dirty: from the bytes that the store holds by now, and from the store itself unless
the device refuses. So dropping it writes nothing, and nothing that is loaded afterwards has
another value. -/
theorem EntityCache.clean_entry [ByteDevice δ] [FaithfulDevice δ] {codec : EntryCodec V B}
    {store : Store δ} {ledger : Ledger} (describes : ledger.Describes store)
    (sound : FaithfulDevice.Sound store.device) {operations : List (CacheOperation V B R)}
    (tracked : ∀ operation ∈ operations, operation.Tracked)
    (served : StoreOperation.Spared StoreError.IsRefusal
      (storeCallsOf codec operations (.ofStore store)) store) {cache : EntityCache δ V}
    (reached : (CacheOperation.runAll codec operations (.ofStore store)).2 = cache)
    {key : EntityId} {entry : Entry V} (live : cache.active[key]? = some entry)
    (clean : entry.dirty = false) :
    ∃ baseline, latestActivation? key none operations = some baseline ∧
      (∃ after, load codec key baseline cache.store.inMemory = .ok entry after) ∧
      (∀ found after, load codec key baseline cache.store = .ok found after → found = entry) ∧
      (∀ failure after, load codec key baseline cache.store = .error failure after →
        failure.IsRefusal) ∧
      ∃ dropped, deactivate codec key cache = .ok false dropped ∧
        dropped.active = cache.active.erase key ∧
        (∀ found after, peek codec key baseline dropped = .ok found after →
          found = .transient entry.value) ∧
        ∀ other again, load codec other again dropped.store = load codec other again cache.store := by
  have nothing : CleanAsStored codec ledger (fun _ => none)
      (EntityCache.ofStore store : EntityCache δ V).active := by
    intro other found same
    rw [EntityCache.ofStore, Std.ExtTreeMap.getElem?_empty] at same
    cases same
  rcases nothing.runAll ⟨describes, sound, rfl⟩ tracked served with ⟨left, backs, asStored⟩
  rw [reached] at backs asStored
  rcases asStored key entry live clean with ⟨baseline, latest, loaded⟩
  have again {found : Entry V} {after : Store δ}
      (ran : load codec key baseline cache.store = .ok found after) : found = entry := by
    rcases backs.describes.load_ok backs.sound ran with ⟨made, foundClean, _⟩
    have sameValue := Except.ok.inj (loaded.symm.trans made)
    rw [Entry.eq_clean foundClean, Entry.eq_clean clean, sameValue]
  refine ⟨baseline, latest, ?_, fun _ _ => again, ?_, ?_⟩
  · rw [Entry.eq_clean clean]
    exact backs.describes.load_inMemory loaded
  · intro failure after
    exact backs.describes.load_error loaded backs.sound
  · let dropped : EntityCache δ V := { cache with active := cache.active.erase key }
    have inactive : dropped.active[key]? = none := Std.ExtTreeMap.getElem?_erase_self
    refine ⟨dropped, ?_, rfl, ?_, fun _ _ => rfl⟩
    · rw [deactivate_live live, writeBack_clean clean, clean]
    · intro found after ran
      rw [peek_inactive inactive] at ran
      cases read : load codec key baseline dropped.store with
      | ok other final =>
          rw [read] at ran
          cases ran
          rw [again read]
      | error failure final =>
          rw [read] at ran
          cases ran

namespace RoleLines

/-- Adds a role to an entity, active or not. -/
def adding (role : String) (key : EntityId) : CacheOperation RoleLines (List String) Unit :=
  .mutate key [] fun entry =>
    ((), entry.modify fun roles => { roles with granted := roles.granted ++ [role] })

/-- Two records are written, and the first one grows while the entity of the second is
active. -/
def grownBefore : List (CacheOperation RoleLines (List String) Unit) :=
  [adding "admin" (.ofPool 2), adding "guest" (.ofPool 1), .activate (.ofPool 1) ["everyone"],
    adding "operator" (.ofPool 2)]

/-- The active entity is clean all the same, and its record, though it has moved, is what
it was loaded from. -/
theorem clean_entry_moved :
    ∃ entry cache, entry.value.granted = ["guest"] ∧
      (CacheOperation.runAll codec grownBefore (.ofStore (Store.opened {} []))).2 = cache ∧
      cache.active[EntityId.ofPool 1]? = some entry ∧
      ∃ after, EntityCache.load codec (.ofPool 1) ["everyone"] cache.store.inMemory =
        .ok entry after := by
  have within : AllWithin ({} : Config).payloadLimit [] := List.forall_mem_nil _
  have tracked : ∀ operation ∈ grownBefore, operation.Tracked := by
    simp only [grownBefore, List.forall_mem_cons]
    exact ⟨fun _ => .inr rfl, fun _ => .inr rfl, trivial, fun _ => .inr rfl,
      List.forall_mem_nil _⟩
  have answered : (StoreOperation.runAll (storeCallsOf codec grownBefore
      (.ofStore (Store.opened {} []))) (Store.opened {} [])).1.all Except.isOk = true := by decide +kernel
  have cleanly : (CacheOperation.runAll codec grownBefore
      (.ofStore (Store.opened {} []))).2.active[EntityId.ofPool 1]? =
        some (.clean ⟨["guest"], "everyone", .decoded, 0⟩) := by decide +kernel
  rcases EntityCache.clean_entry (Ledger.describes_opened within) (FaithfulDevice.sound_memory _)
      tracked (fun failure member => by cases List.all_eq_true.mp answered _ member) rfl cleanly
      rfl with ⟨baseline, latest, loaded, _⟩
  cases latest
  exact ⟨_, _, rfl, rfl, cleanly, loaded⟩

end RoleLines

end PackedRecords
