import PackedRecords.Proofs.Reference.Check
import PackedRecords.Proofs.Store.Reopening
import PackedRecords.Reference.Trial

/-! # Trials without a mismatch

A trial takes a store and a map through the same events. One ledger accounts for both
of them from the first event to the last, so that no comparison fails: only the medium
can end a trial whose payloads keep to the limits.
-/

namespace PackedRecords

/-- What can happen in a trial, in any order. -/
inductive TrialEvent where
  | operate (operation : RecordOperation)
  | reopen (config : Config)
  | verify
deriving DecidableEq, Inhabited

namespace Trial

/-! ## Runs of a trial -/

section Runs

variable {δ : Type} [Medium δ]

def handle (trial : Trial δ) : TrialEvent → Except Mismatch (Trial δ)
  | .operate operation => trial.apply trial.store.config (.operate operation)
  | .reopen config => trial.apply config .reopen
  | .verify => trial.verify

/-- Handles events one after another, up to the first mismatch. -/
def runAll (trial : Trial δ) : List TrialEvent → Except Mismatch (Trial δ)
  | [] => .ok trial
  | event :: rest => do (← trial.handle event).runAll rest

end Runs

/-- No payload goes over the limit in force, neither one that is put nor one that is
stored when the medium is opened again. -/
def Admissible (limit : Nat) (payloads : PayloadMap) : List TrialEvent → Prop
  | [] => True
  | .operate operation :: rest =>
      operation.Fits limit ∧ Admissible limit (payloads.changed operation) rest
  | .reopen config :: rest =>
      payloads.Within config.payloadLimit ∧ Admissible config.payloadLimit payloads rest
  | .verify :: rest => Admissible limit payloads rest

/-! ## Trials in memory -/

/-- One ledger without shadowed records accounts for the store and for the map. -/
structure Balanced (trial : Trial Memory) (limit : Nat) (ledger : Ledger) : Prop where
  describes : ledger.Describes trial.store
  agrees : trial.payloads.Agrees ledger
  unshadowed : ∀ key, ledger.Unshadowed key
  limit : trial.store.config.payloadLimit = limit

theorem check_of_passes {α : Type} {ledger next : Ledger} {limit : Nat}
    {action : CheckM Memory α} {value : α} (passes : ledger.Passes limit action value next)
    {store : Store Memory} (describes : ledger.Describes store)
    (sameLimit : store.config.payloadLimit = limit) :
    ∃ after, check action store = .ok (value, after) ∧ next.Describes after ∧
      after.config.payloadLimit = limit := by
  rcases passes store describes sameLimit with ⟨after, ran, afterDescribes, afterLimit⟩
  refine ⟨after, ?_, afterDescribes, afterLimit⟩
  rw [check, ran]

/-- A trial starts with a store on records of distinct keys and with their map. -/
theorem balanced_ofRecords {records : List Record} {store : Store Memory}
    (describes : (Ledger.ofRecords records).Describes store)
    (distinct : (keysOf records).Nodup) :
    Balanced ⟨.ofRecords records, store⟩ store.config.payloadLimit (.ofRecords records) where
  describes := describes
  agrees := PayloadMap.agrees_ofRecords records
  unshadowed key := Ledger.unshadowed_ofRecords (List.nodup_iff_count.mp distinct key)
  limit := rfl

namespace Balanced

variable {trial : Trial Memory} {limit : Nat} {ledger : Ledger}
  (balanced : trial.Balanced limit ledger)
include balanced

theorem operate {operation : RecordOperation} (fits : operation.Fits limit) :
    ∃ after, trial.handle (.operate operation) = .ok after ∧
      after.payloads = trial.payloads.changed operation ∧
      after.Balanced limit (ledger.apply limit operation.toStore).2 := by
  rcases balanced with ⟨describes, agrees, unshadowed, sameLimit⟩
  have passes := agrees.passes_apply describes.recorded fits
  rcases check_of_passes passes describes sameLimit with
    ⟨store, ran, storeDescribes, storeLimit⟩
  refine ⟨⟨trial.payloads.changed operation, store⟩, ?_, rfl, storeDescribes,
    agrees.changed describes.recorded fits, ?_, storeLimit⟩
  · simp only [handle, apply, ran]
    rfl
  · intro key
    exact (unshadowed key).apply limit operation.toStore

/-- The records stay within every limit that the payloads of the map stay within. -/
theorem allWithin {other : Nat} (within : trial.payloads.Within other) :
    AllWithin other ledger.records :=
  balanced.agrees.allWithin balanced.unshadowed within

theorem reopen {config : Config} (within : trial.payloads.Within config.payloadLimit) :
    ∃ after, trial.handle (.reopen config) = .ok after ∧
      after.payloads = trial.payloads ∧ after.Balanced config.payloadLimit ledger := by
  have allWithin := balanced.allWithin within
  rcases trial with ⟨payloads, ⟨bytes⟩, index, settings, stats, isOpen⟩
  rcases balanced with ⟨describes, agrees, unshadowed, _⟩
  cases describes.isOpen
  have held : bytes = image ledger.records := describes.contents
  subst held
  refine ⟨⟨payloads, Store.opened config ledger.records⟩, ?_, rfl, ?_, agrees, unshadowed,
    rfl⟩
  · have accepted : openStore config (⟨image ledger.records⟩ : Memory) =
        .ok (Store.opened config ledger.records) := by
      rw [openStore, Medium.openStore_memory, Store.openDevice_image allWithin]
    have reopened : Trial.reopen config
        (⟨⟨image ledger.records⟩, index, settings, stats, true⟩ : Store Memory) =
          .ok (Store.opened config ledger.records) := accepted
    simp only [handle, apply, reopened]
    rfl
  · have opened := Ledger.describes_opened allWithin
    rwa [Ledger.ofRecords_eq_self unshadowed describes.recorded] at opened

theorem verify : ∃ after, trial.handle .verify = .ok after ∧
    after.payloads = trial.payloads ∧ after.Balanced limit ledger := by
  rcases balanced with ⟨describes, agrees, unshadowed, sameLimit⟩
  have within := describes.within.mono trial.store.config.payloadLimit_le
  have passes : ledger.Passes limit trial.payloads.verify () ledger :=
    agrees.passes_verify describes.recorded unshadowed within
  rcases check_of_passes passes describes sameLimit with
    ⟨store, ran, storeDescribes, storeLimit⟩
  refine ⟨⟨trial.payloads, store⟩, ?_, rfl, storeDescribes, agrees, unshadowed, storeLimit⟩
  simp only [handle, Trial.verify, ran]
  rfl

/-- An event that is admissible is handled without a mismatch, and what follows it stays
admissible. -/
theorem handle {event : TrialEvent} {rest : List TrialEvent}
    (admissible : Admissible limit trial.payloads (event :: rest)) :
    ∃ after afterLimit next, trial.handle event = .ok after ∧
      after.Balanced afterLimit next ∧ Admissible afterLimit after.payloads rest := by
  cases event with
  | operate operation =>
      rcases admissible with ⟨fits, later⟩
      rcases balanced.operate fits with ⟨after, handled, same, afterBalanced⟩
      rw [← same] at later
      exact ⟨after, _, _, handled, afterBalanced, later⟩
  | reopen config =>
      rcases admissible with ⟨within, later⟩
      rcases balanced.reopen within with ⟨after, handled, same, afterBalanced⟩
      rw [← same] at later
      exact ⟨after, _, _, handled, afterBalanced, later⟩
  | verify =>
      rcases balanced.verify with ⟨after, handled, same, afterBalanced⟩
      refine ⟨after, _, _, handled, afterBalanced, ?_⟩
      rw [same]
      exact admissible

end Balanced

/-- In memory an admissible trial comes to its end. -/
theorem Balanced.runAll {trial : Trial Memory} {limit : Nat} {ledger : Ledger}
    (balanced : trial.Balanced limit ledger) {events : List TrialEvent}
    (admissible : Admissible limit trial.payloads events) :
    ∃ after, trial.runAll events = .ok after := by
  induction events generalizing trial limit ledger with
  | nil => exact ⟨trial, rfl⟩
  | cons event rest induction =>
      rcases balanced.handle admissible with ⟨middle, _, _, handled, middleBalanced, later⟩
      rw [Trial.runAll, handled]
      exact induction middleBalanced later

/-! ## Trials on faithful media -/

/-- A result on a faithful medium stands for the one in memory, unless the medium
refused a call. -/
def Mirrors {α β : Type} (Sound : α → Prop) (view : α → β) (result : Except Mismatch α)
    (reference : Except Mismatch β) : Prop :=
  match result with
  | .ok value => Sound value ∧ reference = .ok (view value)
  | .error mismatch => mismatch.IsRefusal ∨ reference = .error mismatch

theorem Mirrors.bind {α β γ κ : Type} {Sound : α → Prop} {view : α → β} {LastSound : γ → Prop}
    {lastView : γ → κ} {result : Except Mismatch α} {reference : Except Mismatch β}
    {next : α → Except Mismatch γ} {referenceNext : β → Except Mismatch κ}
    (first : Mirrors Sound view result reference)
    (second : ∀ value, Sound value →
      Mirrors LastSound lastView (next value) (referenceNext (view value))) :
    Mirrors LastSound lastView (result >>= next) (reference >>= referenceNext) := by
  cases result with
  | ok value =>
      rcases first with ⟨sound, same⟩
      rw [same]
      exact second value sound
  | error mismatch =>
      rcases first with refused | same
      · exact .inl refused
      · rw [same]
        exact .inr rfl

variable {δ : Type} [Medium δ] [FaithfulMedium δ]

/-- The trial in memory that a trial on a faithful medium stands for. -/
def inMemory (trial : Trial δ) : Trial Memory :=
  ⟨trial.payloads, trial.store.inMemory⟩

/-- The result of a check stands for the one in memory. -/
abbrev MirrorsCheck {α : Type} (result : Except Mismatch (α × Store δ))
    (reference : Except Mismatch (α × Store Memory)) : Prop :=
  Mirrors (fun reached : α × Store δ => FaithfulDevice.Sound reached.2.device)
    (fun reached => (reached.1, reached.2.inMemory)) result reference

/-- The store that is opened stands for the one in memory. -/
abbrev MirrorsStore (result : Except Mismatch (Store δ))
    (reference : Except Mismatch (Store Memory)) : Prop :=
  Mirrors (fun store : Store δ => FaithfulDevice.Sound store.device) Store.inMemory result
    reference

/-- The trial stands for the one in memory. -/
abbrev MirrorsTrial (result : Except Mismatch (Trial δ))
    (reference : Except Mismatch (Trial Memory)) : Prop :=
  Mirrors (fun trial : Trial δ => FaithfulDevice.Sound trial.store.device) inMemory result
    reference

theorem mirrors_check {α : Type} {action : CheckM δ α} {reference : CheckM Memory α}
    (follows : CheckM.Follows action reference) {store : Store δ}
    (sound : FaithfulDevice.Sound store.device) :
    MirrorsCheck (check action store) (check reference store.inMemory) := by
  rw [check, check]
  cases ran : action store with
  | ok value after =>
      rcases follows.ok sound ran with ⟨afterSound, memoryRan⟩
      change reference store.inMemory = _ at memoryRan
      rw [memoryRan]
      exact ⟨afterSound, rfl⟩
  | error mismatch after =>
      rcases follows.error sound ran with ⟨_, refused | memoryRan⟩
      · exact .inl refused
      · change reference store.inMemory = _ at memoryRan
        rw [memoryRan]
        exact .inr rfl

theorem mirrors_openStore (config : Config) {device : δ}
    (sound : FaithfulDevice.Sound device) :
    MirrorsStore (openStore config device)
      (openStore config (⟨FaithfulDevice.contents device⟩ : Memory)) := by
  rw [openStore, openStore]
  cases opened : Medium.openStore config device with
  | ok store =>
      rcases FaithfulMedium.opens sound opened with ⟨storeSound, _, memoryOpened⟩
      rw [Medium.openStore_memory, memoryOpened]
      exact ⟨storeSound, rfl⟩
  | error reported =>
      rcases reported with ⟨failure, after⟩
      rcases FaithfulMedium.reports sound opened with ⟨_, _, refused | memoryFailed⟩
      · exact .inl refused
      · rw [Medium.openStore_memory, memoryFailed]
        exact .inr rfl

theorem mirrors_reopen (config : Config) {store : Store δ}
    (sound : FaithfulDevice.Sound store.device) :
    MirrorsStore (reopen config store) (reopen config store.inMemory) := by
  refine Mirrors.bind (mirrors_check (CheckM.follows_onStore Store.follows_close) sound) ?_
  intro (value, closed) closedSound
  rcases Store.contents_dropped closedSound with ⟨droppedSound, kept⟩
  have opened := mirrors_openStore config droppedSound
  rw [kept] at opened
  change MirrorsStore (openStore config closed.dropped)
    (openStore config closed.inMemory.dropped)
  rw [Store.dropped_memory]
  exact opened

theorem mirrors_handle {trial : Trial δ} (sound : FaithfulDevice.Sound trial.store.device)
    (event : TrialEvent) :
    MirrorsTrial (trial.handle event) (trial.inMemory.handle event) := by
  cases event with
  | operate operation =>
      refine Mirrors.bind (mirrors_check (PayloadMap.follows_apply _ operation) sound) ?_
      intro _ afterSound
      exact ⟨afterSound, rfl⟩
  | reopen config =>
      refine Mirrors.bind (mirrors_reopen config sound) ?_
      intro _ afterSound
      exact ⟨afterSound, rfl⟩
  | verify =>
      refine Mirrors.bind (mirrors_check (PayloadMap.follows_verify _) sound) ?_
      intro _ afterSound
      exact ⟨afterSound, rfl⟩

theorem mirrors_runAll {trial : Trial δ} (sound : FaithfulDevice.Sound trial.store.device)
    (events : List TrialEvent) :
    MirrorsTrial (trial.runAll events) (trial.inMemory.runAll events) := by
  induction events generalizing trial with
  | nil => exact ⟨sound, rfl⟩
  | cons event rest induction =>
      refine Mirrors.bind (mirrors_handle sound event) ?_
      intro _ afterSound
      exact induction afterSound

/-- Only the medium ends an admissible trial before its last event. -/
theorem runAll_of_balanced {trial : Trial δ} {limit : Nat} {ledger : Ledger}
    (sound : FaithfulDevice.Sound trial.store.device)
    (balanced : trial.inMemory.Balanced limit ledger) {events : List TrialEvent}
    (admissible : Admissible limit trial.payloads events) :
    (∃ after, trial.runAll events = .ok after) ∨
      ∃ failure, failure.IsRefusal ∧ trial.runAll events = .error (.refused failure) := by
  have mirrors := mirrors_runAll sound events
  rcases balanced.runAll admissible with ⟨reached, ran⟩
  cases result : trial.runAll events with
  | ok after => exact .inl ⟨after, rfl⟩
  | error mismatch =>
      rw [result] at mirrors
      rcases mirrors with refused | same
      · right
        cases mismatch with
        | refused failure => exact ⟨failure, refused, rfl⟩
        | _ => exact absurd refused id
      · rw [ran] at same
        cases same

end Trial

/-! ## Opening again -/

/-- A store is opened on records of distinct keys. Whatever is done with it, opening the
medium again keeps the records and finds the store that was open before, or reports the
first payload that a lower limit does not allow. A trial that starts there ends without a
mismatch. -/
theorem reopen_stability {δ : Type} [Medium δ] [FaithfulMedium δ] {config : Config}
    {device : δ} {store : Store δ} (sound : FaithfulDevice.Sound device)
    (opened : Medium.openStore config device = .ok store) :
    ∃ records, AllWithin config.payloadLimit records ∧
      FaithfulDevice.contents device = image records ∧
      ((keysOf records).Nodup →
        (∀ steps, (∀ answer ∈ ((Session.opened store).runAll steps).1, ¬answer.IsRefusal) →
          ∃ left, AllWithin maxPayloadSize left ∧ (keysOf left).Nodup ∧
            ((Session.opened store).runAll steps).2.Keeps left) ∧
        ∀ events, Trial.Admissible config.payloadLimit (.ofRecords records) events →
          (∃ after, Trial.runAll ⟨.ofRecords records, store⟩ events = .ok after) ∨
            ∃ failure, failure.IsRefusal ∧
              Trial.runAll ⟨.ofRecords records, store⟩ events =
                .error (.refused failure)) := by
  have started : Session.start config device = (.ok (), .opened store) := by
    rw [Session.start, opened]
  rcases LedgerSession.exists_accounts_of_start sound started with
    ⟨records, within, held, accounts⟩
  refine ⟨records, within, held, fun distinct => ⟨?_, ?_⟩⟩
  · intro steps served
    exact accounts.keeps_runAll distinct served
  · intro events admissible
    rcases accounts.exists_store rfl with ⟨_, same, describes, sameLimit⟩
    cases same
    have balanced : (Trial.inMemory ⟨.ofRecords records, store⟩).Balanced
        store.config.payloadLimit (.ofRecords records) :=
      Trial.balanced_ofRecords (Ledger.describes_inMemory.mpr describes) distinct
    rw [← sameLimit] at admissible
    exact Trial.runAll_of_balanced accounts.sound balanced admissible

/-- The first of two records grows and the second one is removed, with openings in
between. -/
theorem reopen_stability_two_records :
    ∃ store, Medium.openStore {} (⟨image [⟨.replicate 1, ⟨#[1]⟩⟩,
        ⟨.replicate 2, ⟨#[2, 3]⟩⟩]⟩ : Memory) = .ok store ∧
      ((Session.opened store).runAll [.operate (.put (.replicate 1) ⟨#[4, 5]⟩), .reopen {},
        .operate (.remove (.replicate 2))]).2.Keeps [⟨.replicate 1, ⟨#[4, 5]⟩⟩] ∧
      ∃ after, Trial.runAll ⟨.ofRecords [⟨.replicate 1, ⟨#[1]⟩⟩, ⟨.replicate 2, ⟨#[2, 3]⟩⟩],
        store⟩ [.operate (.put (.replicate 1) ⟨#[4, 5]⟩), .reopen {}, .verify] =
          .ok after := by
  let records : List Record := [⟨.replicate 1, ⟨#[1]⟩⟩, ⟨.replicate 2, ⟨#[2, 3]⟩⟩]
  let account : LedgerSession := ⟨.ofRecords records, .working ({} : Config).payloadLimit⟩
  let steps : List SessionStep := [.operate (.put (.replicate 1) ⟨#[4, 5]⟩), .reopen {},
    .operate (.remove (.replicate 2))]
  let events : List TrialEvent := [.operate (.put (.replicate 1) ⟨#[4, 5]⟩), .reopen {},
    .verify]
  have within : AllWithin ({} : Config).payloadLimit records := by decide
  rcases LedgerSession.Describes.start {} within with ⟨_, describes⟩
  rcases describes.runAll steps with ⟨after, ran, afterDescribes⟩
  have answers : (account.runAll steps).1 = [.operated (some (.ok .done)),
      .reopened (.ok ()), .operated (some (.ok (.flag true)))] := by cbv
  have remaining : (account.runAll steps).2.records = [⟨.replicate 1, ⟨#[4, 5]⟩⟩] := by cbv
  have served : ∀ answer ∈ ((Session.opened (Store.opened {} records)).runAll steps).1,
      ¬answer.IsRefusal := by
    rw [ran, answers]
    simp [SessionAnswer.IsRefusal]
  have opened : Medium.openStore {} (⟨image records⟩ : Memory) =
      .ok (Store.opened {} records) := Store.openDevice_image within
  rcases reopen_stability (FaithfulDevice.sound_memory ⟨image records⟩) opened with
    ⟨found, foundWithin, held, stable⟩
  have same : found = records :=
    eq_of_image_eq (Config.payloadLimit_le {}) foundWithin within held.symm
  subst same
  have distinct : (keysOf records).Nodup := by decide
  rcases stable distinct with ⟨kept, ended⟩
  refine ⟨_, opened, ?_, ?_⟩
  · rcases kept steps served with ⟨left, leftWithin, _, keeps⟩
    have sameLeft : left = (account.runAll steps).2.records := by
      refine eq_of_image_eq (Nat.le_refl _) leftWithin afterDescribes.within ?_
      rw [← keeps.contents, ran]
      exact congrArg Memory.bytes afterDescribes.held
    rw [sameLeft, remaining] at keeps
    exact keeps
  · have stored : ((PayloadMap.ofRecords records).insert (.replicate 1) ⟨#[4, 5]⟩).toList =
        [(.replicate 1, ⟨#[4, 5]⟩), (.replicate 2, ⟨#[2, 3]⟩)] := by cbv
    have admissible : Trial.Admissible ({} : Config).payloadLimit (.ofRecords records)
        events := by
      have fits : (⟨#[4, 5]⟩ : ByteArray).size ≤ ({} : Config).payloadLimit := by decide
      refine ⟨fits, ?_, trivial⟩
      rw [PayloadMap.Within, PayloadMap.changed, stored]
      decide
    rcases ended events admissible with reached | ⟨failure, _, same⟩
    · exact reached
    · have balanced := Trial.balanced_ofRecords (Ledger.describes_opened within) distinct
      exact balanced.runAll admissible

end PackedRecords
