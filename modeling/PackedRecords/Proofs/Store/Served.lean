import PackedRecords.Proofs.Reference.PayloadMap
import PackedRecords.Proofs.Store.LedgerRun

/-! # Calls that are served

One call of a described store on a faithful device: what is answered, and the ledger
that goes on describing the store. A call that fails although the ledger allows it has
been refused by the device.
-/

namespace PackedRecords

/-! ## Runs of calls -/

namespace StoreOperation

variable {δ : Type} [ByteDevice δ]

/-- None of the calls fails in one of the ways given. -/
def Spared (failures : StoreError → Prop) (calls : List StoreOperation) (store : Store δ) :
    Prop :=
  ∀ failure, .error failure ∈ (runAll calls store).1 → ¬failures failure

variable {failures : StoreError → Prop} {call : StoreOperation}
  {calls further : List StoreOperation} {store : Store δ}

theorem Spared.append (spared : Spared failures (calls ++ further) store) :
    Spared failures calls store ∧ Spared failures further (runAll calls store).2 := by
  rw [Spared, runAll_append] at spared
  exact ⟨fun failure member => spared failure (List.mem_append_left _ member),
    fun failure member => spared failure (List.mem_append_right _ member)⟩

theorem Spared.cons (spared : Spared failures (call :: calls) store) :
    (∀ failure, (call.outcome store).1 = .error failure → ¬failures failure) ∧
      Spared failures calls (call.outcome store).2 := by
  rw [Spared, runAll] at spared
  exact ⟨fun failure failed => spared failure (List.mem_cons.mpr (.inl failed.symm)),
    fun failure member => spared failure (List.mem_cons_of_mem _ member)⟩

end StoreOperation

namespace Ledger

/-! ## Keys of records -/

/-- Every key that a record has is in use. -/
def AllLive (ledger : Ledger) : Prop :=
  ∀ key ∈ keysOf ledger.records, key ∈ ledger.live

theorem allLive_ofRecords (records : List Record) : (ofRecords records).AllLive :=
  fun _ => mem_live_ofRecords.mpr

theorem AllLive.put {ledger : Ledger} (allLive : ledger.AllLive) (key : EntityId)
    (payload : ByteArray) : (ledger.put key payload).AllLive := by
  intro other member
  rw [Ledger.put] at member ⊢
  by_cases inUse : key ∈ ledger.live
  · rw [if_pos inUse] at member ⊢
    rw [keysOf_replaceLast] at member
    exact allLive other member
  · rw [if_neg inUse] at member ⊢
    rw [keysOf_append, List.mem_append] at member
    rw [Std.ExtTreeSet.mem_insert]
    rcases member with earlier | new
    · exact .inr (allLive other earlier)
    · left
      rw [List.mem_singleton.mp new]
      exact Std.ReflCmp.compare_self

/-- Opening the records again finds no other payloads. -/
theorem AllLive.payload?_ofRecords {ledger : Ledger} (allLive : ledger.AllLive)
    (key : EntityId) : (ofRecords ledger.records).payload? key = ledger.payload? key := by
  rw [Ledger.payload?_ofRecords, payload?]
  by_cases inUse : key ∈ ledger.live
  · rw [if_pos inUse]
  · rw [if_neg inUse, lastPayload?_eq_none_iff.mpr (mt (allLive key) inUse)]

/-! ## Single calls -/

namespace Describes

variable {δ : Type} [ByteDevice δ] [FaithfulDevice δ] {ledger : Ledger} {store after : Store δ}
  (describes : ledger.Describes store)
include describes

theorem size_payload?_le {key : EntityId} {payload : ByteArray}
    (found : ledger.payload? key = some payload) :
    payload.size ≤ store.config.payloadLimit := by
  rw [payload?] at found
  split at found
  · rcases exists_last_split (mem_keysOf_of_lastPayload? found) with
      ⟨before, record, rest, split, same, last⟩
    rw [split, lastPayload?_split same last] at found
    cases found
    exact describes.within record (by rw [split]; exact List.mem_append_cons_self)
  · cases found

variable (sound : FaithfulDevice.Sound store.device)
include sound

/-- What is not refused is answered and done as on the ledger. -/
theorem outcome_of_served (operation : StoreOperation) (notClose : operation ≠ .close)
    (served : ∀ failure, (operation.outcome store).1 = .error failure → ¬failure.IsRefusal) :
    (operation.outcome store).1 = (ledger.apply store.config.payloadLimit operation).1 ∧
      (ledger.apply store.config.payloadLimit operation).2.Describes
        (operation.outcome store).2 ∧
      FaithfulDevice.Sound (operation.outcome store).2.device ∧
      (operation.outcome store).2.config = store.config := by
  rcases StoreOperation.outcome_inMemory sound served with ⟨afterSound, reflected⟩
  rcases (describes_inMemory.mpr describes).outcome_eq notClose with
    ⟨reference, outcome, afterDescribes, sameConfig⟩
  rw [reflected] at outcome
  rcases Prod.mk.inj outcome with ⟨sameAnswer, sameStore⟩
  rw [← sameStore] at afterDescribes sameConfig
  exact ⟨sameAnswer, describes_inMemory.mp afterDescribes, afterSound, sameConfig⟩

theorem get_ok {key : EntityId} {found : Option ByteArray}
    (ran : Store.get key store = .ok found after) :
    found = ledger.payload? key ∧ ledger.Describes after ∧
      FaithfulDevice.Sound after.device ∧ after.config = store.config := by
  have outcome : (StoreOperation.get key).outcome store = (.ok (.payload found), after) := by
    rw [StoreOperation.outcome, StoreOperation.run, bind_of_ok ran, pure_run]
  have answered := describes.outcome_of_served sound (.get key)
    StoreOperation.noConfusion (by rw [outcome]; intro failure failed; cases failed)
  rw [outcome] at answered
  rcases answered with ⟨same, afterDescribes, afterSound, sameConfig⟩
  cases same
  exact ⟨rfl, afterDescribes, afterSound, sameConfig⟩

theorem get_error {key : EntityId} {failure : StoreError}
    (ran : Store.get key store = .error failure after) : failure.IsRefusal := by
  apply Decidable.byContradiction
  intro served
  have outcome : (StoreOperation.get key).outcome store = (.error failure, after) := by
    rw [StoreOperation.outcome, StoreOperation.run, bind_of_error ran]
  have answered := describes.outcome_of_served sound (.get key)
    StoreOperation.noConfusion (by rw [outcome]; intro reason failed; cases failed; exact served)
  rw [outcome] at answered
  cases answered.1

theorem put_ok {key : EntityId} {payload : ByteArray}
    (ran : Store.put key payload store = .ok () after) :
    payload.size ≤ store.config.payloadLimit ∧ (ledger.put key payload).Describes after ∧
      FaithfulDevice.Sound after.device ∧ after.config = store.config := by
  have outcome : (StoreOperation.put key payload).outcome store = (.ok .done, after) := by
    rw [StoreOperation.outcome, StoreOperation.run, bind_of_ok ran, pure_run]
  have answered := describes.outcome_of_served sound (.put key payload)
    StoreOperation.noConfusion (by rw [outcome]; intro failure failed; cases failed)
  rw [outcome, apply] at answered
  by_cases large : store.config.payloadLimit < payload.size
  · rw [if_pos large] at answered
    cases answered.1
  · rw [if_neg large] at answered
    exact ⟨Nat.le_of_not_lt large, answered.2⟩

/-- Closing fails only where the device refuses. -/
theorem close_error {failure : StoreError} (ran : Store.close store = .error failure after) :
    failure.IsRefusal := by
  rcases (Store.follows_close (δ := δ)).error sound ran with ⟨_, refused | memoryRan⟩
  · exact refused
  · rcases store with ⟨device, index, config, stats, isOpen⟩
    cases describes.isOpen
    cases memoryRan

/-- Only whether it is open changes about a store that has been closed. -/
theorem close_ok (ran : Store.close store = .ok () after) :
    after.isOpen = false ∧ FaithfulDevice.Sound after.device ∧
      ledger.Describes { after with isOpen := true } ∧ after.config = store.config := by
  rcases store with ⟨device, index, config, stats, isOpen⟩
  cases describes.isOpen
  have kept := FaithfulDevice.contents_flush sound
  simp only [Store.close, if_true] at ran
  cases flushed : ByteDevice.flush device with
  | error failure final =>
      rw [flushed] at ran
      cases ran
  | ok done final =>
      rw [flushed] at ran kept
      cases ran
      have finalSound := (FaithfulDevice.follows_flush.ok sound flushed).1
      have contents := (FaithfulDevice.contents_release final).trans kept
      exact ⟨rfl, FaithfulDevice.sound_release final finalSound, ⟨rfl,
        contents.trans describes.contents, describes.index, describes.recorded,
        describes.within⟩, rfl⟩

end Describes

/-! ## Runs -/

/-- The ledger describes the store, which has the configuration and a sound device. -/
structure Backs {δ : Type} [ByteDevice δ] [FaithfulDevice δ] (ledger : Ledger)
    (config : Config) (store : Store δ) : Prop where
  describes : ledger.Describes store
  sound : FaithfulDevice.Sound store.device
  config : store.config = config

/-- Calls that are not refused are answered and done as on the ledger. -/
theorem Backs.runAll {δ : Type} [ByteDevice δ] [FaithfulDevice δ] {ledger : Ledger}
    {config : Config} {store : Store δ} (backs : ledger.Backs config store)
    {calls : List StoreOperation} (noClose : .close ∉ calls)
    (served : StoreOperation.Spared StoreError.IsRefusal calls store) :
    (StoreOperation.runAll calls store).1 = (ledger.runAll config.payloadLimit calls).1 ∧
      (ledger.runAll config.payloadLimit calls).2.Backs config
        (StoreOperation.runAll calls store).2 := by
  induction calls generalizing ledger store with
  | nil => exact ⟨rfl, backs⟩
  | cons call rest induction =>
      have notFirst : call ≠ .close := by
        intro same
        exact noClose (List.mem_cons.mpr (.inl same.symm))
      have notLater : .close ∉ rest := by
        intro member
        exact noClose (List.mem_cons_of_mem _ member)
      rcases served.cons with ⟨servedFirst, servedRest⟩
      rcases backs.describes.outcome_of_served backs.sound call notFirst servedFirst with
        ⟨answer, describes, sound, sameConfig⟩
      rw [backs.config] at answer describes sameConfig
      rcases induction ⟨describes, sound, sameConfig⟩ notLater servedRest with
        ⟨answers, restBacks⟩
      refine ⟨?_, restBacks⟩
      rw [StoreOperation.runAll, Ledger.runAll]
      simp only [answer, answers]

end Ledger

end PackedRecords
