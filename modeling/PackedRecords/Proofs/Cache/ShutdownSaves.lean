import PackedRecords.Proofs.Cache.CleanEntries
import PackedRecords.Proofs.Cache.Shutdown

/-! # What a shutdown saves

A shutdown saves every dirty entry that can be saved, also when others before it could
not. The keys are distinct, so that what the file has for each of them does not depend on
the order in which they are visited; only the failure that is reported does.
-/

namespace PackedRecords

variable {δ V B R : Type}

/-! ## What is due -/

/-- The payload to store for a value under a limit, or the reason there is none. -/
def EntryCodec.packed (codec : EntryCodec V B) (limit : Nat) (value : V) :
    Except StoreError ByteArray :=
  match codec.encode value with
  | .ok payload =>
      if limit < payload.size then .error (.payloadTooLarge payload.size limit)
      else .ok payload
  | .error failure => .error failure

namespace EntityCache

variable (codec : EntryCodec V B)

/-- What has to be stored when the activity of an entity ends, or why that will fail.
Nothing has to be for an inactive or a clean one. -/
def due? (cache : EntityCache δ V) (key : EntityId) : Option (Except StoreError ByteArray) :=
  match cache.active[key]? with
  | some entry =>
      if entry.dirty then some (codec.packed cache.store.config.payloadLimit entry.value)
      else none
  | none => none

/-- Why an entity cannot be saved. -/
def unsaved? (cache : EntityCache δ V) (key : EntityId) : Option StoreError :=
  match cache.due? codec key with
  | some (.error failure) => some failure
  | _ => none

/-- The payload of a key once what is due has been stored. -/
def settled (due : Option (Except StoreError ByteArray)) (before : Option ByteArray) :
    Option ByteArray :=
  match due with
  | some (.ok payload) => some payload
  | _ => before

end EntityCache

/-- The ledger once what is due for a key has been stored. -/
def Ledger.settle (ledger : Ledger) (key : EntityId)
    (due : Option (Except StoreError ByteArray)) : Ledger :=
  match due with
  | some (.ok payload) => ledger.put key payload
  | _ => ledger

theorem Ledger.lastPayload?_settle {ledger : Ledger}
    (recorded : ∀ key ∈ ledger.live, key ∈ keysOf ledger.records) (key other : EntityId)
    (due : Option (Except StoreError ByteArray)) :
    lastPayload? other (ledger.settle key due).records =
      if key = other then EntityCache.settled due (lastPayload? other ledger.records)
      else lastPayload? other ledger.records := by
  match due with
  | some (.ok payload) =>
      rw [settle, EntityCache.settled]
      by_cases same : key = other
      · rw [if_pos same, ← same, lastPayload?_put_self recorded]
      · rw [if_neg same, lastPayload?_put_of_ne same]
  | some (.error failure) | none =>
      simp only [settle, EntityCache.settled, ite_self]

namespace EntityCache

variable {codec : EntryCodec V B} {cache other : EntityCache δ V} {key : EntityId}

/-- What is due depends on the entry and the limit alone. -/
theorem due?_congr (sameEntry : cache.active[key]? = other.active[key]?)
    (sameConfig : cache.store.config = other.store.config) :
    cache.due? codec key = other.due? codec key := by
  rw [due?, due?, sameEntry, sameConfig]

theorem unsaved?_congr (sameEntry : cache.active[key]? = other.active[key]?)
    (sameConfig : cache.store.config = other.store.config) :
    cache.unsaved? codec key = other.unsaved? codec key := by
  rw [unsaved?, unsaved?, due?_congr sameEntry sameConfig]

/-! ## Ending one activity -/

variable [ByteDevice δ]

/-- The entity ceases to be active, as an operation of the cache. -/
abbrev ending (key : EntityId) : CacheOperation V B Unit :=
  .deactivate key

theorem deactivateNext_snd (failed : Option StoreError) (cache : EntityCache δ V)
    (key : EntityId) :
    (deactivateNext codec (failed, cache) key).2 =
      ((ending key : CacheOperation V B Unit).outcome codec cache).2 := by
  rw [deactivateNext, CacheOperation.outcome_deactivate]
  cases deactivate codec key cache <;> rfl

theorem deactivateEach_snd (keys : List EntityId) (cache : EntityCache δ V) :
    (deactivateEach codec keys cache).2 =
      (CacheOperation.runAll codec (keys.map ending) cache).2 := by
  induction keys generalizing cache with
  | nil => rfl
  | cons key rest induction =>
      rw [deactivateEach_cons, deactivateNext_snd, List.map_cons, CacheOperation.runAll]
      exact induction _

/-- On the ledger the calls come to what is due. -/
theorem runAll_storeCalls_ending {config : Config} (sameConfig : cache.store.config = config)
    (ledger : Ledger) (key : EntityId) :
    (ledger.runAll config.payloadLimit ((ending key).storeCalls codec cache)).2 =
      ledger.settle key (cache.due? codec key) := by
  rw [due?, CacheOperation.storeCalls, sameConfig]
  cases cache.active[key]? with
  | none => rfl
  | some entry =>
      simp only [EntryCodec.writeBackCalls, EntryCodec.packed]
      cases entry.dirty with
      | false => rfl
      | true =>
          cases codec.encode entry.value with
          | error failure => rfl
          | ok payload =>
              simp only [if_true, Ledger.runAll, Ledger.apply]
              by_cases large : config.payloadLimit < payload.size
              · rw [if_pos large, if_pos large]
                rfl
              · rw [if_neg large, if_neg large]
                rfl

variable [FaithfulDevice δ] {ledger : Ledger} {config : Config}

/-- The end of an activity fails for the reason that was due, and for no other as long as
the device does not refuse. -/
theorem deactivateNext_fst (backs : ledger.Backs config cache.store)
    (served : StoreOperation.Spared StoreError.IsRefusal ((ending key).storeCalls codec cache)
      cache.store) :
    (deactivateNext codec (none, cache) key).1 = cache.unsaved? codec key := by
  rw [deactivateNext, unsaved?, due?]
  rw [CacheOperation.storeCalls] at served
  cases live : cache.active[key]? with
  | none => simp only [deactivate_inactive live]
  | some entry =>
      rw [live] at served
      simp only [deactivate_live live]
      cases dirty : entry.dirty with
      | false => simp only [writeBack_clean dirty, Bool.false_eq_true, if_false]
      | true =>
          simp only [writeBack_dirty dirty, if_true, EntryCodec.packed]
          cases encoded : codec.encode entry.value with
          | error failure =>
              simp only [save_of_unencodable encoded]
              rfl
          | ok payload =>
              simp only [EntryCodec.writeBackCalls_encoded dirty encoded] at served
              have answer := (backs.describes.outcome_of_served backs.sound (.put key payload)
                StoreOperation.noConfusion served.cons.1).1
              rw [StoreOperation.outcome, StoreOperation.run, Ledger.apply] at answer
              simp only [save_of_encoded encoded]
              cases stored : Store.put key payload cache.store with
              | ok done after =>
                  rw [bind_of_ok stored] at answer
                  by_cases large : cache.store.config.payloadLimit < payload.size
                  · rw [if_pos large] at answer
                    cases answer
                  · rw [if_neg large]
              | error failure after =>
                  rw [bind_of_error stored] at answer
                  by_cases large : cache.store.config.payloadLimit < payload.size
                  · rw [if_pos large] at answer ⊢
                    cases answer
                    rfl
                  · rw [if_neg large] at answer
                    cases answer

/-! ## Ending all activity -/

theorem findSome?_congr {α β : Type} {values : List α} {left right : α → Option β}
    (agree : ∀ value ∈ values, left value = right value) :
    values.findSome? left = values.findSome? right := by
  induction values with
  | nil => rfl
  | cons value rest induction =>
      rcases List.forall_mem_cons.mp agree with ⟨here, later⟩
      rw [List.findSome?_cons, List.findSome?_cons, here, induction later]

/-- Everything due is stored and nothing else changes in the records; the first entity
that cannot be saved gives the failure. -/
theorem deactivateEach_due (backs : ledger.Backs config cache.store) {keys : List EntityId}
    (distinct : keys.Nodup)
    (served : StoreOperation.Spared StoreError.IsRefusal
      (CacheOperation.storeCallsOf codec (keys.map ending) cache) cache.store) :
    (deactivateEach codec keys cache).1 = keys.findSome? (cache.unsaved? codec) ∧
      ∃ left : Ledger, left.Backs config (deactivateEach codec keys cache).2.store ∧
        ∀ key, lastPayload? key left.records =
          if key ∈ keys then settled (cache.due? codec key) (lastPayload? key ledger.records)
          else lastPayload? key ledger.records := by
  induction keys generalizing ledger cache with
  | nil =>
      refine ⟨rfl, ledger, backs, ?_⟩
      intro key
      rw [if_neg List.not_mem_nil]
  | cons first rest induction =>
      rcases List.nodup_cons.mp distinct with ⟨notLater, restDistinct⟩
      rcases served.append with ⟨servedFirst, servedRest⟩
      have failed := deactivateNext_fst backs servedFirst
      have middleBacks := CacheOperation.backs_outcome backs (ending first) servedFirst
      rw [runAll_storeCalls_ending backs.config] at middleBacks
      rw [← CacheOperation.makes_storeCalls (ending first) cache] at servedRest
      rw [deactivateEach_cons, deactivateNext_snd, failed]
      rcases induction middleBacks restDistinct servedRest with ⟨failures, left, leftBacks, payloads⟩
      -- The other entities are still active, with the same entries.
      have sameConfig := middleBacks.config.trans backs.config.symm
      have kept {key : EntityId} (member : key ∈ rest) :
          ((ending first).outcome codec cache).2.active[key]? = cache.active[key]? :=
        CacheOperation.active_outcome_of_ne rfl (ne_of_mem_of_not_mem member notLater).symm cache
      refine ⟨?_, left, leftBacks, ?_⟩
      · rw [failures, List.findSome?_cons]
        cases cache.unsaved? codec first with
        | some failure => rfl
        | none =>
            exact findSome?_congr fun key member => unsaved?_congr (kept member) sameConfig
      · intro key
        rw [payloads, Ledger.lastPayload?_settle backs.describes.recorded]
        by_cases member : key ∈ rest
        · have different : first ≠ key := (ne_of_mem_of_not_mem member notLater).symm
          rw [if_pos member, if_pos (List.mem_cons_of_mem _ member), if_neg different,
            due?_congr (kept member) sameConfig]
        · rw [if_neg member]
          by_cases here : first = key
          · rw [if_pos here, ← here, if_pos List.mem_cons_self]
          · rw [if_neg here, if_neg (List.not_mem_cons_of_ne_of_not_mem (Ne.symm here) member)]

/-! ## Shutting down -/

/-- The calls of the store that a shutdown makes. -/
def shutdownCalls (codec : EntryCodec V B) (keys : List EntityId) (cache : EntityCache δ V) :
    List StoreOperation :=
  CacheOperation.storeCallsOf codec (keys.map ending) cache ++ [.close]

/-- The answer of a shutdown in which the failure came first, or none did. -/
def shutdownAnswer : Option StoreError → Except StoreError Unit
  | some failure => .error failure
  | none => .ok ()

theorem shutdownAnswer_eq_ok_iff {failed : Option StoreError} :
    shutdownAnswer failed = .ok () ↔ failed = none := by
  cases failed with
  | none => exact ⟨fun _ => rfl, fun _ => rfl⟩
  | some failure => exact ⟨nofun, nofun⟩

omit [FaithfulDevice δ] in
theorem shutdownIn_of_close {keys : List EntityId} {closed : Store δ}
    (shut : Store.close (deactivateEach codec keys cache).2.store = .ok () closed) :
    shutdownIn codec keys cache =
      (shutdownAnswer (deactivateEach codec keys cache).1, closed) := by
  rw [shutdownIn]
  rcases each : deactivateEach codec keys cache with ⟨failed, final⟩
  rw [each] at shut
  cases failed <;> simp only [shut] <;> rfl

omit [FaithfulDevice δ] in
/-- The store afterwards is the one that the calls leave, whatever fails. -/
theorem store_of_shutdownIn (keys : List EntityId) (cache : EntityCache δ V) :
    (shutdownIn codec keys cache).2 =
      (StoreOperation.runAll (shutdownCalls codec keys cache) cache.store).2 := by
  have left : (shutdownIn codec keys cache).2 =
      finalState (Store.close (deactivateEach codec keys cache).2.store) := by
    rw [shutdownIn]
    rcases deactivateEach codec keys cache with ⟨failed, final⟩
    cases failed <;> cases shut : Store.close final.store <;> simp only [shut] <;> rfl
  rw [left, deactivateEach_snd, shutdownCalls, StoreOperation.runAll_append,
    ← CacheOperation.store_of_runAll, StoreOperation.runAll, StoreOperation.outcome,
    StoreOperation.run]
  cases shut : Store.close (CacheOperation.runAll codec (keys.map ending) cache).2.store with
  | ok done closed =>
      rw [bind_of_ok shut]
      rfl
  | error failure closed =>
      rw [bind_of_error shut]
      rfl

/-- The store is closed, and its records are as they were when everything was stored. -/
theorem shutdownIn_due (backs : ledger.Backs config cache.store) {keys : List EntityId}
    (distinct : keys.Nodup)
    (served : StoreOperation.Spared StoreError.IsRefusal (shutdownCalls codec keys cache)
      cache.store) :
    ∃ (closed : Store δ) (left : Ledger), shutdownIn codec keys cache =
        (shutdownAnswer (keys.findSome? (cache.unsaved? codec)), closed) ∧
      closed.isOpen = false ∧ FaithfulDevice.Sound closed.device ∧
      left.Describes { closed with isOpen := true } ∧ closed.config = config ∧
      ∀ key, lastPayload? key left.records =
        if key ∈ keys then settled (cache.due? codec key) (lastPayload? key ledger.records)
        else lastPayload? key ledger.records := by
  rcases served.append with ⟨servedEach, servedClose⟩
  rcases deactivateEach_due backs distinct servedEach with ⟨failures, left, leftBacks, payloads⟩
  rw [← CacheOperation.store_of_runAll, ← deactivateEach_snd] at servedClose
  cases shut : Store.close (deactivateEach codec keys cache).2.store with
  | error failure after =>
      have refused := leftBacks.describes.close_error leftBacks.sound shut
      refine absurd refused (servedClose.cons.1 failure ?_)
      rw [StoreOperation.outcome, StoreOperation.run, bind_of_error shut]
  | ok done closed =>
      rcases leftBacks.describes.close_ok leftBacks.sound shut with
        ⟨isClosed, sound, describes, sameConfig⟩
      refine ⟨closed, left, ?_, isClosed, sound, describes, sameConfig.trans leftBacks.config,
        payloads⟩
      rw [shutdownIn_of_close shut, failures]

end EntityCache

/-- A shutdown closes the store and leaves a file of whole records, in which every entity
has the payload that was due for it or else the one it had before, whatever the order in
which the active entities are visited. It fails if and only if something due could not be
stored, for the reason that the first such entity gives. The file can be opened again, and
what is looked up then is what the records have. -/
theorem EntityCache.shutdown_saves [Medium δ] [FaithfulMedium δ] {codec : EntryCodec V B}
    {store : Store δ} {ledger : Ledger} (describes : ledger.Describes store)
    (sound : FaithfulDevice.Sound store.device) {operations : List (CacheOperation V B R)}
    (served : StoreOperation.Spared StoreError.IsRefusal
      (CacheOperation.storeCallsOf codec operations (.ofStore store)) store)
    {cache : EntityCache δ V}
    (reached : (CacheOperation.runAll codec operations (.ofStore store)).2 = cache) :
    ∃ before : List Record, FaithfulDevice.contents cache.store.device = image before ∧
      AllWithin cache.store.config.payloadLimit before ∧
      ∀ keys : List EntityId, keys.Perm cache.activeKeys →
        StoreOperation.Spared StoreError.IsRefusal (shutdownCalls codec keys cache) cache.store →
        ∃ (answer : Except StoreError Unit) (closed : Store δ) (after : List Record),
          shutdownIn codec keys cache = (answer, closed) ∧
          answer = shutdownAnswer (keys.findSome? (cache.unsaved? codec)) ∧
          (answer = .ok () ↔ ∀ key, cache.unsaved? codec key = none) ∧
          closed.isOpen = false ∧
          FaithfulDevice.contents closed.device = image after ∧
          AllWithin cache.store.config.payloadLimit after ∧
          (∀ key, lastPayload? key after =
            settled (cache.due? codec key) (lastPayload? key before)) ∧
          ∀ again : Config, cache.store.config.payloadLimit ≤ again.payloadLimit →
            Store.openDevice again (⟨FaithfulDevice.contents closed.device⟩ : Memory) =
              .ok (Store.opened again after) ∧
            ∀ opening session, (Session.opened closed).reopen again = (opening, session) →
              (∀ failure, opening = .error failure → failure.IsRefusal) ∧
              ∀ reopened, session = .opened reopened → ∀ key,
                (∀ found final, Store.get key reopened = .ok found final →
                  found = settled (cache.due? codec key) (lastPayload? key before)) ∧
                ∀ failure final, Store.get key reopened = .error failure final →
                  failure.IsRefusal := by
  have start : ledger.Backs store.config (EntityCache.ofStore store : EntityCache δ V).store :=
    ⟨describes, sound, rfl⟩
  rcases CacheOperation.exists_backs_runAll start served with ⟨middle, backs⟩
  rw [reached] at backs
  have within := backs.describes.within
  refine ⟨middle.records, backs.describes.contents, within, ?_⟩
  intro keys all spared
  have distinct : keys.Nodup := all.nodup_iff.mpr Std.ExtTreeMap.nodup_keys
  have active {key : EntityId} (missing : key ∉ keys) : cache.active[key]? = none := by
    apply Std.ExtTreeMap.getElem?_eq_none
    exact fun member => missing (all.mem_iff.mpr (Std.ExtTreeMap.mem_keys.mpr member))
  rcases shutdownIn_due backs distinct spared with
    ⟨closed, left, ran, isClosed, closedSound, closedDescribes, sameConfig, payloads⟩
  have stored (key : EntityId) : lastPayload? key left.records =
      settled (cache.due? codec key) (lastPayload? key middle.records) := by
    rw [payloads]
    by_cases member : key ∈ keys
    · rw [if_pos member]
    · rw [if_neg member, due?, active member]
      rfl
  have afterWithin : AllWithin cache.store.config.payloadLimit left.records := by
    rw [backs.config, ← sameConfig]
    exact closedDescribes.within
  have contents : FaithfulDevice.contents closed.device = image left.records :=
    closedDescribes.contents
  refine ⟨_, closed, left.records, ran, rfl, ?_, isClosed, contents, afterWithin, stored, ?_⟩
  · rw [shutdownAnswer_eq_ok_iff, List.findSome?_eq_none_iff]
    constructor
    · intro saved key
      by_cases member : key ∈ keys
      · exact saved key member
      · rw [unsaved?, due?, active member]
    · exact fun saved key _ => saved key
  · intro again wide
    rw [contents]
    refine ⟨Store.openDevice_image (afterWithin.mono wide), ?_⟩
    intro opening session reopens
    rcases closedDescribes.reopened isClosed closedSound reopens with ⟨refused, found⟩
    rw [sameConfig, ← backs.config] at refused
    refine ⟨fun failure failed => refused failure failed wide, ?_⟩
    intro reopened opened key
    rcases found reopened opened with ⟨reopenedSound, reopenedDescribes⟩
    constructor
    · intro payload final looked
      rw [(reopenedDescribes.get_ok reopenedSound looked).1, Ledger.payload?_ofRecords, stored]
    · intro failure final
      exact reopenedDescribes.get_error reopenedSound

namespace RoleLines

/-- Three entities are made active: the role added to the first can be stored, the one
added to the second cannot, and the third has a record and is left clean. -/
def mixedRun : List (CacheOperation RoleLines (List String) Unit) :=
  [.activate (.ofPool 1) [], adding "admin" (.ofPool 1), .activate (.ofPool 2) [],
    adding unencodable (.ofPool 2), .activate (.ofPool 3) []]

def guestRecords : List Record :=
  [⟨.ofPool 3, "guest".toUTF8⟩]

def mixedCache : EntityCache Memory RoleLines :=
  (CacheOperation.runAll codec mixedRun (.ofStore (Store.opened {} guestRecords))).2

/-- The entity that cannot be stored comes first and gives the failure; the others are
stored or left alone all the same. -/
theorem shutdown_saves_mixed :
    ∃ closed after,
      EntityCache.shutdownIn codec [.ofPool 2, .ofPool 1, .ofPool 3] mixedCache =
        (.error (.codec "unencodable role"), closed) ∧
      FaithfulDevice.contents closed.device = image after ∧
      lastPayload? (.ofPool 1) after = some "admin".toUTF8 ∧
      lastPayload? (.ofPool 2) after = none ∧
      lastPayload? (.ofPool 3) after = some "guest".toUTF8 := by
  have within : AllWithin ({} : Config).payloadLimit guestRecords := by decide
  have ran : (StoreOperation.runAll (CacheOperation.storeCallsOf codec mixedRun
      (.ofStore (Store.opened {} guestRecords)))
      (Store.opened {} guestRecords)).1.all Except.isOk = true := by decide +kernel
  have reached : (CacheOperation.runAll codec mixedRun
      (.ofStore (Store.opened {} guestRecords))).2 = mixedCache := rfl
  rcases EntityCache.shutdown_saves (Ledger.describes_opened within)
      (FaithfulDevice.sound_memory _)
      (fun failure member => by cases List.all_eq_true.mp ran _ member) reached with
    ⟨before, held, beforeWithin, saves⟩
  have visited : [EntityId.ofPool 2, .ofPool 1, .ofPool 3].Perm mixedCache.activeKeys := by
    decide +kernel
  have closes : (StoreOperation.runAll (EntityCache.shutdownCalls codec
      [.ofPool 2, .ofPool 1, .ofPool 3] mixedCache) mixedCache.store).1.all Except.isOk = true := by
    decide +kernel
  rcases saves _ visited (fun failure member => by cases List.all_eq_true.mp closes _ member) with
    ⟨answer, closed, after, shut, answered, _, _, contents, _, payloads, _⟩
  have sameRecords : before = guestRecords := by
    have unchanged : FaithfulDevice.contents mixedCache.store.device = image guestRecords := by
      decide +kernel
    have guestWithin : AllWithin mixedCache.store.config.payloadLimit guestRecords := by
      decide +kernel
    exact eq_of_image_eq mixedCache.store.config.payloadLimit_le beforeWithin guestWithin
      (held.symm.trans unchanged)
  have first : [EntityId.ofPool 2, .ofPool 1, .ofPool 3].findSome?
      (mixedCache.unsaved? codec) = some (.codec "unencodable role") := by decide +kernel
  rw [answered, first] at shut
  refine ⟨closed, after, shut, contents, ?_, ?_, ?_⟩ <;> rw [payloads, sameRecords] <;>
    decide +kernel

end RoleLines

end PackedRecords
