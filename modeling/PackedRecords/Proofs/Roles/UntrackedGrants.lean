import PackedRecords.Proofs.Cache.UntrackedChanges
import PackedRecords.Proofs.Roles.StoredForm

/-! # Roles granted by untracked changes

A role that is granted without setting the flag is not stored for that reason alone. It is
stored with all the others if the flag is set anyhow: because another role is granted or
revoked, or because the entry is brought in line. So it stays out of the records only as
long as nothing but untracked changes are made while the entity is active.
-/

namespace PackedRecords.RoleSet

/-- The role is granted in the role set. -/
def Grants (role : String) (roles : RoleSet) : Prop :=
  role ∈ roles.granted

instance (role : String) : DecidablePred (Grants role) := fun roles =>
  inferInstanceAs (Decidable (role ∈ roles.granted))

/-- The role is among those read from a record with the payload. -/
def Recorded (role : String) (payload : ByteArray) : Prop :=
  ∃ granted, decodeGranted? payload.data.toList = some granted ∧ role ∈ granted

theorem recorded_iff {roles : RoleSet} {payload : ByteArray}
    (encoded : codec.encode roles = .ok payload) (short : payload.size ≤ maxPayloadSize)
    (role : String) : Recorded role payload ↔ Grants role roles := by
  have small : payload.size < 2 ^ 64 := Nat.lt_of_le_of_lt short (by decide)
  have read := decodeGranted?_encodeGranted (addressable_of_encode encoded small)
  cases encoded
  simp only [Recorded, Grants, read, Option.some.injEq, exists_eq_left', Std.ExtTreeSet.mem_toList]

theorem recorded_recordOf {granted : List String} {role : String}
    (short : (recordOf granted).size ≤ maxPayloadSize) (member : role ∈ granted) :
    Recorded role (recordOf granted) := by
  apply (recorded_iff (encode_recordOf granted) short role).mpr
  rw [Grants, Std.ExtTreeSet.mem_ofList, List.contains_iff_mem]
  exact member

/-- Records reveal the roles granted in them; baselines grant none. -/
theorem reveals_grants (role : String) : codec.Reveals (Grants role) (Recorded role) where
  fresh _ _ := Std.ExtTreeSet.not_mem_empty
  decode {key payload baseline roles} decoded grants := by
    have read : decode key payload baseline = .ok roles := decoded
    rw [decode] at read
    cases found : decodeGranted? payload.data.toList with
    | none =>
        rw [found] at read
        cases read
    | some granted =>
        rw [found] at read
        cases read
        have member : role ∈ Std.ExtTreeSet.ofList granted := grants
        rw [Std.ExtTreeSet.mem_ofList, List.contains_iff_mem] at member
        exact ⟨granted, found, member⟩
  encode encoded short := (recorded_iff encoded short role).mp
  reconcile _ _ _ := id

open CacheOperation EntityCache

/-- A change that consists of the given accesses. -/
def accessing (key : EntityId) (accesses : List (EntryAccess RoleSet)) :
    CacheOperation RoleSet (List String) Unit :=
  .mutate key [] fun entry => ((), EntryAccess.applyAll accesses entry)

theorem changesBy_accessing {δ : Type} [ByteDevice δ]
    {permitted : EntryAccess RoleSet → Entry RoleSet → Prop} {key : EntityId}
    {accesses : List (EntryAccess RoleSet)} {cache : EntityCache δ RoleSet}
    (all : ∀ entry ∈ cache.subject? codec key [],
      EntryAccess.AllPermitted permitted accesses entry) :
    (accessing key accesses).ChangesBy codec permitted key cache :=
  fun _ entry met => ⟨accesses, rfl, all entry met⟩

/-- A record is written for a key exactly when a dirty entry of the key is given up, and it
shows all the roles granted in that entry, however they came there. So a role is in none of the
records written for the key in a run and in a shutdown after it, whatever the device refuses, if
no record read on the way has it and the entry is handled in one of two ways each time the entity
is active, and at each change offline: either all changes of the entry are untracked, the active
entity is not activated again, and nothing brings all entities in line, or no change grants the
role. On a faithful device that refuses nothing, no record read has the role if the first one
does not. -/
theorem untracked_grants {δ R : Type} [ByteDevice δ] (role : String) (key : EntityId) :
    (∀ (operation : CacheOperation RoleSet (List String) R) (cache : EntityCache δ RoleSet) payload,
      .put key payload ∈ operation.storeCalls codec cache ↔
        operation.target? = some key ∧ ∃ entry, operation.givenUp? codec cache = some entry ∧
          entry.dirty = true ∧ codec.encode entry.value = .ok payload) ∧
      (∀ roles payload, codec.encode roles = .ok payload → payload.size ≤ maxPayloadSize →
        (Recorded role payload ↔ Grants role roles)) ∧
      ∀ (store : Store δ) (operations : List (CacheOperation RoleSet (List String) R)) cache,
        (CacheOperation.runAll codec operations (.ofStore store)).2 = cache →
        cache.store =
          (StoreOperation.runAll (storeCallsOf codec operations (.ofStore store)) store).2 ∧
        (∀ keys,
          (shutdownIn codec keys cache).2 =
            (StoreOperation.runAll (shutdownCalls codec keys cache) cache.store).2) ∧
        ∀ handling,
          TreatsAlong codec (Grants role) key handling operations (.ofStore store) →
          (Along codec (ReadsNone codec (Recorded role) key) operations (.ofStore store) →
            ∀ keys payload, payload.size ≤ maxPayloadSize →
              .put key payload ∈ storeCallsOf codec operations (.ofStore store) ++
                shutdownCalls codec keys cache → ¬Recorded role payload) ∧
          ∀ [FaithfulDevice δ] (ledger : Ledger) (config : Config), ledger.Backs config store →
            (∀ payload, ledger.payload? key = some payload → ¬Recorded role payload) →
            StoreOperation.Spared StoreError.IsRefusal
              (storeCallsOf codec operations (.ofStore store)) store →
            Along codec (ReadsNone codec (Recorded role) key) operations (.ofStore store) := by
  refine ⟨fun operation cache payload => put_mem_storeCalls,
    fun roles payload encoded short => recorded_iff encoded short role, ?_⟩
  rintro store operations cache rfl
  refine ⟨store_of_runAll operations _, fun keys => store_of_shutdownIn keys _, ?_⟩
  intro handling treats
  have inactive : (EntityCache.ofStore store).Keeps (Grants role) key handling := by
    intro entry live
    rw [ofStore, Std.ExtTreeMap.getElem?_empty] at live
    cases live
  constructor
  · intro reads keys payload short member
    rcases unwritten_runAll (reveals_grants role) treats reads inactive with
      ⟨⟨reached, keeps⟩, unwritten⟩
    rcases List.mem_append.mp member with running | ending
    · exact unwritten payload short running
    · exact unwritten_shutdown (reveals_grants role) keeps keys short ending
  · intro faithful ledger config backs untold served
    exact readsNone_along (reveals_grants role) backs untold treats served inactive

/-- A guest is let in by an untracked change. -/
def lettingGuestIn : CacheOperation RoleSet (List String) Unit :=
  accessing (.ofPool 1) [.modifyUntracked (grant "guest")]

/-- An admin is appointed by a tracked change. -/
def appointingAdmin : CacheOperation RoleSet (List String) Unit :=
  accessing (.ofPool 1) [.modify (grant "admin")]

/-- An entity without a record: a guest is let in twice while it is active, and an admin
is appointed in between, when it is not. -/
def guestsAndAdmin : List (CacheOperation RoleSet (List String) Unit) :=
  [.activate (.ofPool 1) [], lettingGuestIn, .deactivate (.ofPool 1), appointingAdmin,
    .activate (.ofPool 1) [], lettingGuestIn]

/-- Neither the one record nor the shutdown, which finds a guest there, tells of a guest. -/
theorem untracked_grants_guest :
    storeCallsOf codec guestsAndAdmin (.ofStore (Store.opened {} [])) =
        [.get (.ofPool 1), .get (.ofPool 1), .put (.ofPool 1) (recordOf ["admin"]),
          .get (.ofPool 1)] ∧
      Recorded "admin" (recordOf ["admin"]) ∧ ¬Recorded "guest" (recordOf ["admin"]) := by
  have short : (recordOf ["admin"]).size ≤ maxPayloadSize := by decide +kernel
  have calls : storeCallsOf codec guestsAndAdmin (.ofStore (Store.opened {} [])) =
      [.get (.ofPool 1), .get (.ofPool 1), .put (.ofPool 1) (recordOf ["admin"]),
        .get (.ofPool 1)] := by
    decide +kernel
  have letsIn : Handling.untracked.Covers (Grants "guest") fun entry : Entry RoleSet =>
      ((), EntryAccess.applyAll [.modifyUntracked (grant "guest")] entry) :=
    fun _ => ⟨[.modifyUntracked (grant "guest")], List.forall_mem_singleton.mpr trivial, rfl⟩
  have appoints : Handling.sparing.Covers (Grants "guest") fun entry : Entry RoleSet =>
      ((), EntryAccess.applyAll [.modify (grant "admin")] entry) := by
    refine fun _ => ⟨[.modify (grant "admin")], List.forall_mem_singleton.mpr ?_, rfl⟩
    intro roles grants
    have member : "guest" ∈ roles.granted.insert "admin" := grants
    exact (Std.ExtTreeSet.mem_insert.mp member).resolve_left (by decide)
  -- The entity is handled as one that guests visit whenever it is active.
  have treats : TreatsAlong codec (Grants "guest") (.ofPool 1) .untracked guestsAndAdmin
      (.ofStore (Store.opened {} [])) :=
    ⟨fun _ => by decide +kernel, .untracked, fun _ _ => rfl,
      fun _ => letsIn, .untracked, fun _ _ => rfl,
      trivial, .sparing, by decide +kernel,
      fun _ => appoints, .untracked, by decide +kernel,
      fun _ => by decide +kernel, .untracked, fun _ _ => rfl,
      fun _ => letsIn, .untracked, fun _ _ => rfl, trivial⟩
  have backs : (Ledger.ofRecords []).Backs {} (Store.opened {} []) :=
    ⟨Ledger.describes_opened (List.forall_mem_nil _), FaithfulDevice.sound_memory _, rfl⟩
  have served : StoreOperation.Spared StoreError.IsRefusal
      (storeCallsOf codec guestsAndAdmin (.ofStore (Store.opened {} []))) (Store.opened {} []) := by
    rw [calls]
    have answers : ((StoreOperation.runAll [.get (.ofPool 1), .get (.ofPool 1),
        .put (.ofPool 1) (recordOf ["admin"]), .get (.ofPool 1)] (Store.opened {} [])).1.all
          fun answer => answer.isOk) = true := by decide +kernel
    intro failure member
    exact absurd (List.all_eq_true.mp answers _ member) Bool.false_ne_true
  refine ⟨calls, recorded_recordOf short (by simp), ?_⟩
  rcases ((untracked_grants "guest" (.ofPool 1)).2.2 (Store.opened {} []) guestsAndAdmin _ rfl).2.2
    .untracked treats with ⟨unstored, reads⟩
  apply unstored (reads _ _ backs nofun served) [.ofPool 1] _ short
  rw [calls]
  exact List.mem_append_left _ (by simp)

/-- What is done to the entity from its activation to the end of its activity. -/
def whileActive (operations : List (CacheOperation RoleSet (List String) Unit)) :
    List (CacheOperation RoleSet (List String) Unit) :=
  .activate (.ofPool 1) [] :: (operations ++ [.deactivate (.ofPool 1)])

/-- Guests are let in by untracked changes only and no change marks an entry with a guest as
dirty, but a guest is recorded. -/
def TellsOfGuest (operations : List (CacheOperation RoleSet (List String) Unit)) : Prop :=
  Along codec (ChangesBy codec (EntryAccess.Untracked (Grants "guest")) (.ofPool 1)) operations
      (.ofStore (Store.opened {} [])) ∧
    ∃ payload, payload.size ≤ maxPayloadSize ∧ Recorded "guest" payload ∧
      .put (.ofPool 1) payload ∈ storeCallsOf codec operations (.ofStore (Store.opened {} []))

/-- A guest is recorded if an admin is appointed afterwards or before, if the entity is
activated again, and if all entities are brought in line. -/
theorem untracked_grants_recorded :
    TellsOfGuest (whileActive [lettingGuestIn, appointingAdmin]) ∧
      TellsOfGuest (whileActive [appointingAdmin, lettingGuestIn]) ∧
      TellsOfGuest (whileActive [lettingGuestIn, .activate (.ofPool 1) []]) ∧
      TellsOfGuest (whileActive [lettingGuestIn, .reconcileAll []]) := by
  have shortBoth : (recordOf ["admin", "guest"]).size ≤ maxPayloadSize := by decide +kernel
  have shortAlone : (recordOf ["guest"]).size ≤ maxPayloadSize := by decide +kernel
  have both := recorded_recordOf shortBoth (show "guest" ∈ ["admin", "guest"] by simp)
  have alone := recorded_recordOf shortAlone (show "guest" ∈ ["guest"] by simp)
  refine ⟨⟨⟨trivial, changesBy_accessing ?_, changesBy_accessing ?_, trivial, trivial⟩,
      _, shortBoth, both, ?_⟩,
    ⟨⟨trivial, changesBy_accessing ?_, changesBy_accessing ?_, trivial, trivial⟩,
      _, shortBoth, both, ?_⟩,
    ⟨⟨trivial, changesBy_accessing ?_, trivial, trivial, trivial⟩, _, shortAlone, alone, ?_⟩,
    ⟨⟨trivial, changesBy_accessing ?_, trivial, trivial, trivial⟩, _, shortAlone, alone, ?_⟩⟩
  all_goals decide +kernel

end PackedRecords.RoleSet
