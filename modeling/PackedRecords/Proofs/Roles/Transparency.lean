import PackedRecords.Proofs.Cache.Shutdown
import PackedRecords.Proofs.Roles.StoredForm

/-! # Granted roles in a cache

The granted roles are what is stored of a role set. So it cannot be seen from them
whether an entity is or was active.
-/

namespace PackedRecords.RoleSet

/-- The granted roles are stored; baselines touch only the others. -/
def grantedPart : StoredPart codec RoleNames where
  part := granted
  replace names roles := { roles with granted := names }
  blank := ∅
  replace_part _ := rfl
  part_replace _ _ := rfl
  part_fresh _ _ := rfl
  part_reconcile _ _ _ := rfl
  restores encoded short key baseline := by
    have small : maxPayloadSize < 2 ^ 64 := by decide
    have addressable := addressable_of_encode encoded (Nat.lt_of_le_of_lt short small)
    exact ⟨_, decode_encode encoded addressable key baseline, rfl⟩

/-- Whatever else happens to a cache, looking at an entity shows the stored granted roles
with the changes made to them, in their order. Changes that look at nothing but the
granted roles do the same to them in any history. What is shown outlives the cache, as
long as no removed key has left an earlier record behind. -/
theorem granted_transparent {δ R : Type} [Medium δ] [FaithfulMedium δ] {ledger : Ledger}
    {store : Store δ} (sound : FaithfulDevice.Sound store.device)
    (describes : ledger.Describes store) {initial : EntityId → RoleNames}
    (holds : ∀ key, grantedPart.Holds (initial key) (ledger.payload? key))
    {operations : List (CacheOperation RoleSet (List String) R)}
    (tracked : ∀ operation ∈ operations, operation.Tracked)
    (served : ∀ failure, .error failure ∉
      (CacheOperation.runAll codec operations (.ofStore store)).1) :
    grantedPart.Shows (grantedPart.contentsAfter operations (.ofStore store) initial)
        (CacheOperation.runAll codec operations (.ofStore store)).2 ∧
      (∀ (key : EntityId)
        (act : (Entry RoleSet → R × Entry RoleSet) → RoleNames → RoleNames),
        (∀ change ∈ CacheOperation.changesOn key operations, ∀ entry,
          (change entry).2.value.granted = act change entry.value.granted) →
        grantedPart.contentsAfter operations (.ofStore store) initial key =
          (CacheOperation.changesOn key operations).foldl
            (fun names change => act change names) (initial key)) ∧
      (ledger.AllLive → ∀ keys closed,
        keys.Perm (CacheOperation.runAll codec operations (.ofStore store)).2.activeKeys →
        EntityCache.shutdownIn codec keys
          (CacheOperation.runAll codec operations (.ofStore store)).2 = (.ok (), closed) →
        ∀ again answer session, (Session.opened closed).reopen again = (answer, session) →
          (∀ failure, answer = .error failure →
            store.config.payloadLimit ≤ again.payloadLimit → failure.IsRefusal) ∧
          ∀ reopened, session = .opened reopened →
            grantedPart.Shows
              (grantedPart.contentsAfter operations (.ofStore store) initial)
              (.ofStore reopened)) := by
  have carries : grantedPart.Carries ledger initial (EntityCache.ofStore (V := RoleSet) store).store
      (EntityCache.ofStore store).active := .ofStore sound describes holds
  rcases carries.runAll tracked served with ⟨left, leftAllLive, leftCarries, sameConfig⟩
  refine ⟨leftCarries.shows, ?_, ?_⟩
  · intro key act acts
    exact grantedPart.contentsAfter_eq served acts initial
  · intro allLive keys closed all shut again answer session ran
    have reopened := leftCarries.shows_reopened (leftAllLive allLive) all shut ran
    rw [sameConfig] at reopened
    exact reopened

/-- A cache over an empty store in which a role was granted to an active entity. -/
def grantedWhileActive :
    List (Except StoreError (CacheAnswer RoleSet Unit)) × EntityCache Memory RoleSet :=
  CacheOperation.runAll codec [.activate (.ofPool 1) ["everyone"],
    .mutate (.ofPool 1) [] fun entry => ((), entry.modify (grant "admin")),
    .deactivate (.ofPool 1)] (.ofStore (Store.opened {} []))

/-- The role is shown afterwards, and by the next cache on the same medium. -/
theorem granted_transparent_active_entity :
    ∃ granted : EntityId → RoleNames, granted (.ofPool 1) = .ofList ["admin"] ∧
      grantedPart.Shows granted grantedWhileActive.2 ∧
      ∃ closed, EntityCache.shutdown codec grantedWhileActive.2 = (.ok (), closed) ∧
        ∃ reopened, (Session.opened closed).reopen {} = (.ok (), .opened reopened) ∧
          grantedPart.Shows granted (.ofStore reopened) := by
  have within : AllWithin ({} : Config).payloadLimit [] := List.forall_mem_nil _
  have served : ∀ failure, .error failure ∉ grantedWhileActive.1 := by
    have answers : grantedWhileActive.1.all (fun answer => answer.isOk) = true := by cbv
    intro failure member
    exact absurd (List.all_eq_true.mp answers _ member) Bool.false_ne_true
  have tracked : ∀ operation ∈ ([.activate (.ofPool 1) ["everyone"],
      .mutate (.ofPool 1) [] fun entry => ((), entry.modify (grant "admin")),
      .deactivate (.ofPool 1)] : List (CacheOperation RoleSet (List String) Unit)),
        operation.Tracked := by
    simp only [List.forall_mem_cons]
    exact ⟨trivial, fun _ => .inr rfl, trivial, List.forall_mem_nil _⟩
  have nothing (key : EntityId) : grantedPart.Holds ∅ ((Ledger.ofRecords []).payload? key) := rfl
  rcases granted_transparent (FaithfulDevice.sound_memory _) (Ledger.describes_opened within)
      nothing tracked served with ⟨shows, acts, outlives⟩
  refine ⟨_, ?_, shows, ?_⟩
  · let act (change : Entry RoleSet → Unit × Entry RoleSet) (names : RoleNames) : RoleNames :=
      (change (.clean ⟨names, ∅, 0⟩)).2.value.granted
    rw [acts (.ofPool 1) act]
    · rfl
    · intro change member entry
      have only : change = fun entry => ((), entry.modify (grant "admin")) :=
        List.mem_singleton.mp member
      rw [only]
      rfl
  · have shut : (EntityCache.shutdown codec grantedWhileActive.2).1 = .ok () := by cbv
    have opened : ((Session.opened (EntityCache.shutdown codec
        grantedWhileActive.2).2).reopen {}).1 = .ok () := by cbv
    refine ⟨_, Prod.ext shut rfl, ?_⟩
    rcases Session.reopen_cases {} (.opened (EntityCache.shutdown codec
        grantedWhileActive.2).2) with ⟨reopened, accepted⟩ | ⟨failure, device, failed⟩
    · refine ⟨reopened, accepted, ?_⟩
      exact (outlives (Ledger.allLive_ofRecords []) _ _ (List.Perm.refl _) (Prod.ext shut rfl)
        {} _ _ accepted).2 reopened rfl
    · rw [failed] at opened
      cases opened

/-- Two records of one key: an admin is granted in the first, and nobody in the second. -/
def shadowedAdmin : List Record :=
  [⟨.ofPool 1, recordOf ["admin"]⟩, ⟨.ofPool 1, recordOf []⟩]

/-- A cache over the store of these records from which the key has been removed. -/
def adminRemoved : EntityCache Memory RoleSet :=
  .ofStore ((StoreOperation.remove (.ofPool 1)).outcome (Store.opened {} shadowedAdmin)).2

/-- The granted roles that a look at the first entity shows. -/
def grantedTo (cache : EntityCache Memory RoleSet) : Option (List String) :=
  match ((.peek (.ofPool 1) [] : CacheOperation RoleSet (List String) Unit).outcome codec
    cache).1 with
  | .ok (.peeked look) => some look.value.granted.toList
  | _ => none

/-- What is shown does not outlive the cache if a removed key has left an earlier record
behind: nobody is granted anything, and after a shutdown the admin is there. -/
theorem granted_transparent_removed :
    Store.openDevice {} (⟨image shadowedAdmin⟩ : Memory) = .ok (Store.opened {} shadowedAdmin) ∧
      ((StoreOperation.remove (.ofPool 1)).outcome (Store.opened {} shadowedAdmin)).1 =
        .ok (.flag true) ∧
      grantedTo adminRemoved = some [] ∧
      ∃ closed reopened, EntityCache.shutdown codec adminRemoved = (.ok (), closed) ∧
        (Session.opened closed).reopen {} = (.ok (), .opened reopened) ∧
        grantedTo (.ofStore reopened) = some ["admin"] := by
  have within : AllWithin ({} : Config).payloadLimit shadowedAdmin := by decide +kernel
  have shut : (EntityCache.shutdown codec adminRemoved).1 = .ok () := by cbv
  have opened : Store.openDevice {} (EntityCache.shutdown codec adminRemoved).2.dropped =
      .ok (Store.opened {} [⟨.ofPool 1, recordOf ["admin"]⟩]) := by cbv
  have reopened : (Session.opened (EntityCache.shutdown codec adminRemoved).2).reopen {} =
      (.ok (), .opened (Store.opened {} [⟨.ofPool 1, recordOf ["admin"]⟩])) := by
    simp only [Session.reopen, Session.start, Session.drop, Medium.openStore_memory, opened]
  exact ⟨Store.openDevice_image within, by cbv, by decide +kernel, _, _, Prod.ext shut rfl,
    reopened, by decide +kernel⟩

end PackedRecords.RoleSet
