import PackedRecords.Proofs.Cache.Transparency
import PackedRecords.Proofs.Store.LedgerSession

/-! # Shutting a cache down

A shutdown that succeeds has saved whatever had to be saved, in whatever order the
entities were visited. A cache over the store that is opened next shows the same.
-/

namespace PackedRecords

variable {δ V B K : Type}

/-! ## Ending all activity -/

namespace EntityCache

section Each

variable [ByteDevice δ] {codec : EntryCodec V B}

/-- Ends the activity of one more entity; the first failure stays. -/
def deactivateNext (codec : EntryCodec V B) (state : Option StoreError × EntityCache δ V)
    (key : EntityId) : Option StoreError × EntityCache δ V :=
  match deactivate codec key state.2 with
  | .ok _ cache => (state.1, cache)
  | .error failure cache => (state.1 <|> some failure, cache)

theorem deactivateEach_eq (keys : List EntityId) (cache : EntityCache δ V) :
    deactivateEach codec keys cache = keys.foldl (deactivateNext codec) (none, cache) :=
  rfl

/-- A failure that came before stays the first one, and keeps nothing from being tried. -/
theorem foldl_deactivateNext (keys : List EntityId) (failed : Option StoreError)
    (cache : EntityCache δ V) :
    keys.foldl (deactivateNext codec) (failed, cache) =
      (failed <|> (deactivateEach codec keys cache).1, (deactivateEach codec keys cache).2) := by
  induction keys generalizing failed cache with
  | nil =>
      cases failed <;> rfl
  | cons key rest induction =>
      rw [deactivateEach_eq, List.foldl_cons, List.foldl_cons, deactivateNext, deactivateNext]
      cases deactivate codec key cache with
      | ok written middle => exact induction failed middle
      | error failure middle =>
          simp only [induction]
          cases failed <;> rfl

theorem deactivateEach_cons (key : EntityId) (keys : List EntityId) (cache : EntityCache δ V) :
    deactivateEach codec (key :: keys) cache =
      ((deactivateNext codec (none, cache) key).1 <|>
          (deactivateEach codec keys (deactivateNext codec (none, cache) key).2).1,
        (deactivateEach codec keys (deactivateNext codec (none, cache) key).2).2) := by
  rw [deactivateEach_eq, List.foldl_cons, ← foldl_deactivateNext]

/-- Without a failure every entity in turn has ceased to be active. -/
theorem exists_of_deactivateEach {key : EntityId} {keys : List EntityId}
    {cache final : EntityCache δ V}
    (ran : deactivateEach codec (key :: keys) cache = (none, final)) :
    ∃ written middle, deactivate codec key cache = .ok written middle ∧
      deactivateEach codec keys middle = (none, final) := by
  rw [deactivateEach_cons, deactivateNext] at ran
  cases deactivated : deactivate codec key cache with
  | ok written middle =>
      rw [deactivated] at ran
      refine ⟨written, middle, rfl, ?_⟩
      rw [← ran]
      rfl
  | error failure middle =>
      rw [deactivated] at ran
      cases ran

theorem shutdownIn_ok {keys : List EntityId} {cache : EntityCache δ V} {closed : Store δ}
    (ran : shutdownIn codec keys cache = (.ok (), closed)) :
    ∃ final, deactivateEach codec keys cache = (none, final) ∧
      Store.close final.store = .ok () closed := by
  rw [shutdownIn] at ran
  rcases each : deactivateEach codec keys cache with ⟨failed, final⟩
  rw [each] at ran
  refine ⟨final, ?_⟩
  cases failed with
  | none =>
      cases shut : Store.close final.store with
      | ok done store =>
          simp only [shut] at ran
          cases ran
          exact ⟨rfl, rfl⟩
      | error failure store =>
          simp only [shut] at ran
          cases ran
  | some failure =>
      cases shut : Store.close final.store with
      | ok done store =>
          simp only [shut] at ran
          cases ran
      | error reason store =>
          simp only [shut] at ran
          cases ran

end Each

end EntityCache

/-! ## What is left behind -/

namespace StoredPart.Carries

variable {codec : EntryCodec V B} {stored : StoredPart codec K} {ledger : Ledger}
  {contents : EntityId → K}

section OnFaithful

variable [ByteDevice δ] [FaithfulDevice δ] {cache final : EntityCache δ V}
  (carries : stored.Carries ledger contents cache.store cache.active)
include carries

theorem deactivateEach_ok {keys : List EntityId}
    (ran : EntityCache.deactivateEach codec keys cache = (none, final)) :
    ∃ left, (ledger.AllLive → left.AllLive) ∧
      stored.Carries left contents final.store final.active ∧
      final.store.config = cache.store.config ∧
      ∀ key, key ∈ keys ∨ cache.active[key]? = none → final.active[key]? = none := by
  induction keys generalizing ledger cache with
  | nil =>
      cases ran
      refine ⟨ledger, id, carries, rfl, ?_⟩
      intro key inactive
      exact inactive.resolve_left List.not_mem_nil
  | cons first rest induction =>
      rcases EntityCache.exists_of_deactivateEach ran with ⟨written, middle, deactivated, later⟩
      rcases carries.deactivate_ok deactivated with
        ⟨between, allLive, middleCarries, middleConfig⟩
      rcases induction middleCarries later with
        ⟨left, restAllLive, leftCarries, sameConfig, inactive⟩
      refine ⟨left, restAllLive ∘ allLive, leftCarries, sameConfig.trans middleConfig, ?_⟩
      have ended (key : EntityId) (settled : key = first ∨ cache.active[key]? = none) :
          middle.active[key]? = none := by
        rcases EntityCache.deactivate_ok deactivated with ⟨missing, same⟩ | ⟨_, _, _, active⟩
        · rw [same]
          rcases settled with here | gone
          · rw [here]
            exact missing
          · exact gone
        · rw [active, Std.ExtTreeMap.getElem?_erase]
          simp only [Std.LawfulEqCmp.compare_eq_iff_eq]
          rcases settled with here | gone
          · rw [if_pos here.symm]
          · rw [gone, ite_self]
      intro key settled
      apply inactive
      rcases settled with member | gone
      · rcases List.mem_cons.mp member with here | later
        · exact .inr (ended key (.inl here))
        · exact .inl later
      · exact .inr (ended key (.inr gone))

/-- After a shutdown every content stands in its record. -/
theorem shutdown_ok {keys : List EntityId} (all : keys.Perm cache.activeKeys)
    {closed : Store δ} (ran : EntityCache.shutdownIn codec keys cache = (.ok (), closed)) :
    ∃ left : Ledger, (ledger.AllLive → left.AllLive) ∧
      (∀ key, stored.Holds (contents key) (left.payload? key)) ∧
      closed.isOpen = false ∧ FaithfulDevice.Sound closed.device ∧
      left.Describes { closed with isOpen := true } ∧
      closed.config = cache.store.config := by
  rcases EntityCache.shutdownIn_ok ran with ⟨final, each, shut⟩
  rcases carries.deactivateEach_ok each with
    ⟨left, allLive, leftCarries, sameConfig, inactive⟩
  rcases leftCarries.describes.close_ok leftCarries.sound shut with
    ⟨isClosed, sound, describes, closedConfig⟩
  refine ⟨left, allLive, ?_, isClosed, sound, describes, closedConfig.trans sameConfig⟩
  intro key
  apply leftCarries.holds_of_inactive
  apply inactive
  by_cases member : key ∈ cache.active
  · left
    exact all.mem_iff.mpr (Std.ExtTreeMap.mem_keys.mpr member)
  · exact .inr (Std.ExtTreeMap.getElem?_eq_none member)

end OnFaithful

/-- A cache over a store just opened carries what the records hold. -/
theorem ofStore [ByteDevice δ] [FaithfulDevice δ] {store : Store δ}
    (sound : FaithfulDevice.Sound store.device) (describes : ledger.Describes store)
    (holds : ∀ key, stored.Holds (contents key) (ledger.payload? key)) :
    stored.Carries ledger contents store (∅ : ActiveMap V) where
  sound := sound
  describes := describes
  live {key entry} found := by
    rw [Std.ExtTreeMap.getElem?_empty] at found
    cases found
  saved key := .inl (holds key)

end StoredPart.Carries

/-- A closed store on its medium can be opened again under a limit that is no smaller, and
then has all its records. -/
theorem Ledger.Describes.reopened [Medium δ] [FaithfulMedium δ] {ledger : Ledger}
    {closed : Store δ} (describes : ledger.Describes { closed with isOpen := true })
    (isClosed : closed.isOpen = false) (sound : FaithfulDevice.Sound closed.device)
    {again : Config} {answer : Except StoreError Unit} {session : Session δ}
    (ran : (Session.opened closed).reopen again = (answer, session)) :
    (∀ failure, answer = .error failure →
        closed.config.payloadLimit ≤ again.payloadLimit → failure.IsRefusal) ∧
      ∀ store, session = .opened store → FaithfulDevice.Sound store.device ∧
        (Ledger.ofRecords ledger.records).Describes store := by
  have shut : LedgerSession.Accounts ⟨ledger, .shut closed.config.payloadLimit⟩
      (.opened closed) := by
    have inMemory : ledger.Describes { closed.inMemory with isOpen := true } :=
      describes_inMemory.mpr describes
    exact ⟨sound, .shut closed.inMemory isClosed inMemory⟩
  constructor
  · intro failure failed wide
    apply Decidable.byContradiction
    intro served
    rw [failed] at ran
    have overLimit : openingFailure? again.payloadLimit 0 ledger.records = some failure :=
      (shut.reopen_error ran served).1
    rw [openingFailure?_eq_none_iff.mpr (describes.within.mono wide)] at overLimit
    cases overLimit
  · intro store opened
    subst opened
    have succeeded : answer = .ok () := by
      rcases Session.reopen_cases again (.opened closed) with
        ⟨other, accepted⟩ | ⟨failure, device, failed⟩
      · rw [accepted] at ran
        cases ran
        rfl
      · rw [failed] at ran
        cases ran
    rw [succeeded] at ran
    have accounts := (shut.reopen_ok ran).2
    rcases accounts.exists_store rfl with ⟨other, same, otherDescribes, _⟩
    cases same
    exact ⟨accounts.sound, otherDescribes⟩

/-- A cache over a store that is opened where another one was shut down shows what that
one carried. -/
theorem StoredPart.Carries.shows_reopened [Medium δ] [FaithfulMedium δ]
    {codec : EntryCodec V B} {stored : StoredPart codec K} {ledger : Ledger}
    {contents : EntityId → K} {cache : EntityCache δ V}
    (carries : stored.Carries ledger contents cache.store cache.active)
    (allLive : ledger.AllLive) {keys : List EntityId} (all : keys.Perm cache.activeKeys)
    {closed : Store δ} (shut : EntityCache.shutdownIn codec keys cache = (.ok (), closed))
    {again : Config} {answer : Except StoreError Unit} {session : Session δ}
    (ran : (Session.opened closed).reopen again = (answer, session)) :
    (∀ failure, answer = .error failure →
        cache.store.config.payloadLimit ≤ again.payloadLimit → failure.IsRefusal) ∧
      ∀ store, session = .opened store → stored.Shows contents (.ofStore store) := by
  rcases carries.shutdown_ok all shut with
    ⟨left, leftAllLive, holds, isClosed, sound, describes, sameConfig⟩
  rcases describes.reopened isClosed sound ran with ⟨refused, found⟩
  rw [sameConfig] at refused
  refine ⟨refused, ?_⟩
  intro store opened
  rcases found store opened with ⟨storeSound, storeDescribes⟩
  have carried : stored.Carries (.ofRecords left.records) contents store (∅ : ActiveMap V) :=
    .ofStore storeSound storeDescribes fun key => by
      rw [(leftAllLive allLive).payload?_ofRecords]
      exact holds key
  exact carried.shows

end PackedRecords
