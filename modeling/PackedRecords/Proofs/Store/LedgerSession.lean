import PackedRecords.Proofs.Store.Closed
import PackedRecords.Proofs.Store.LedgerRun
import PackedRecords.Proofs.Store.Sessions

/-! # Sessions work as their ledgers do

A ledger session is a ledger and what can be done with it at the moment: operate it
under a limit, be told that the store is closed, or nothing. Opening the medium again
brings all keys of the records back into use, or fails at the first payload over the
limit. Every session is described by its ledger session, step by step.
-/

namespace PackedRecords

/-! ## Opening under a limit -/

/-- Why records laid out from `start` on cannot be opened under a limit. -/
def openingFailure? (limit start : Nat) : List Record → Option StoreError
  | [] => none
  | record :: rest =>
      if limit < record.payload.size then
        some (.corruptRecord start
          (.lengthOverLimit (UInt32.ofNat record.payload.size) limit))
      else openingFailure? limit (start + record.size) rest

theorem openingFailure?_eq_none_iff {limit start : Nat} {records : List Record} :
    openingFailure? limit start records = none ↔ AllWithin limit records := by
  induction records generalizing start with
  | nil =>
      constructor
      · intro _
        exact List.forall_mem_nil _
      · intro _
        rfl
  | cons record rest induction =>
      rw [openingFailure?, AllWithin, List.forall_mem_cons]
      by_cases exceeds : limit < record.payload.size
      · rw [if_pos exceeds]
        constructor
        · intro impossible
          cases impossible
        · intro within
          exact absurd within.1 (Nat.not_le_of_lt exceeds)
      · rw [if_neg exceeds, induction]
        constructor
        · intro within
          exact ⟨Nat.le_of_not_lt exceeds, within⟩
        · intro within
          exact within.2

theorem exists_of_openingFailure? {limit start : Nat} {records : List Record}
    {failure : StoreError} (failed : openingFailure? limit start records = some failure) :
    ∃ before record after, records = before ++ record :: after ∧ AllWithin limit before ∧
      limit < record.payload.size ∧
      failure = .corruptRecord (start + (image before).size)
        (.lengthOverLimit (UInt32.ofNat record.payload.size) limit) := by
  induction records generalizing start with
  | nil => cases failed
  | cons head rest induction =>
      rw [openingFailure?] at failed
      by_cases exceeds : limit < head.payload.size
      · rw [if_pos exceeds] at failed
        exact ⟨[], head, rest, rfl, List.forall_mem_nil _, exceeds, (Option.some.inj failed).symm⟩
      · rw [if_neg exceeds] at failed
        rcases induction failed with ⟨before, record, after, split, within, large, same⟩
        refine ⟨head :: before, record, after, by rw [split, List.cons_append],
          List.forall_mem_cons.mpr ⟨Nat.le_of_not_lt exceeds, within⟩, large, ?_⟩
        rw [same, size_image_cons, Nat.add_assoc]

/-- A record over the limit keeps what follows from being read. -/
theorem Store.openDevice_overLimit {config : Config} {records : List Record}
    (within : AllWithin maxPayloadSize records) {failure : StoreError}
    (failed : openingFailure? config.payloadLimit 0 records = some failure) :
    openDevice config (⟨image records⟩ : Memory) = .error (failure, ⟨image records⟩) := by
  rcases exists_of_openingFailure? failed with
    ⟨before, record, after, split, beforeWithin, exceeds, same⟩
  let rest := record.encode ++ image after
  have bytes : image records = image before ++ rest := by
    rw [split, image_split, ByteArray.append_assoc]
  have length : (Header.decode rest).length = UInt32.ofNat record.payload.size := by
    rw [Record.decode_encode_append]
    rfl
  have value : (UInt32.ofNat record.payload.size).toNat = record.payload.size :=
    Record.toNat_length (within record (by rw [split]; simp))
  have size : rest.size = headerSize + record.payload.size + (image after).size := by
    rw [ByteArray.size_append, Record.size_encode, Record.size_eq]
  have stuck : ¬Readable config.payloadLimit rest := by
    intro readable
    have short := readable.length
    rw [length, value] at short
    omega
  have positive := headerSize_pos
  have short := within record (by rw [split]; simp)
  have unsigned : maxPayloadSize < 0x80000000 := by decide
  have fault : faultOf config.payloadLimit (image before).size rest =
      .lengthOverLimit (UInt32.ofNat record.payload.size) config.payloadLimit := by
    change readBigEndian32 rest keySize = _ at length
    rw [faultOf, length, value, if_neg (by omega), if_neg (by omega), if_pos exceeds]
  rw [bytes, openDevice_rest beforeWithin stuck (by omega), fault, same, Nat.zero_add]

/-! ## Ledger sessions -/

/-- What can be done with a ledger. -/
inductive LedgerMode where
  /-- No store is open. -/
  | vacant
  /-- There is a store, but it has been closed. -/
  | shut (limit : Nat)
  | working (limit : Nat)
deriving DecidableEq, Inhabited

/-- A ledger on a medium. -/
structure LedgerSession where
  ledger : Ledger
  mode : LedgerMode

namespace LedgerSession

def records (session : LedgerSession) : List Record :=
  session.ledger.records

/-- Operates the ledger as far as its mode allows. -/
def operate (session : LedgerSession) (operation : StoreOperation) :
    Option (Except StoreError StoreAnswer) × LedgerSession :=
  match session.mode with
  | .vacant => (none, session)
  | .shut limit => (some (closedAnswer limit operation), session)
  | .working limit =>
      (some (session.ledger.apply limit operation).1,
        ⟨(session.ledger.apply limit operation).2,
          if operation = .close then .shut limit else .working limit⟩)

/-- Brings all keys of the records into use, if the limit allows every payload. -/
def reopen (session : LedgerSession) (config : Config) :
    Except StoreError Unit × LedgerSession :=
  match openingFailure? config.payloadLimit 0 session.records with
  | none => (.ok (), ⟨.ofRecords session.records, .working config.payloadLimit⟩)
  | some failure => (.error failure, ⟨session.ledger, .vacant⟩)

def step (session : LedgerSession) : SessionStep → SessionAnswer × LedgerSession
  | .operate operation =>
      (.operated (session.operate operation).1, (session.operate operation).2)
  | .reopen config => (.reopened (session.reopen config).1, (session.reopen config).2)

def runAll (steps : List SessionStep) (session : LedgerSession) :
    List SessionAnswer × LedgerSession :=
  match steps with
  | [] => ([], session)
  | first :: rest =>
      let (answer, session) := session.step first
      let (answers, session) := runAll rest session
      (answer :: answers, session)

/-- The session in memory holds the records of the ledger, and its store works as the
mode says. A closed store keeps the index it had. -/
inductive Describes : LedgerSession → Session Memory → Prop
  | vacant {ledger : Ledger} {memory : Memory} (held : memory.bytes = image ledger.records)
      (within : AllWithin maxPayloadSize ledger.records) :
      Describes ⟨ledger, .vacant⟩ (.vacant memory)
  | shut {ledger : Ledger} (store : Store Memory) (closed : store.isOpen = false)
      (describes : ledger.Describes { store with isOpen := true }) :
      Describes ⟨ledger, .shut store.config.payloadLimit⟩ (.opened store)
  | working {ledger : Ledger} {store : Store Memory} (describes : ledger.Describes store) :
      Describes ⟨ledger, .working store.config.payloadLimit⟩ (.opened store)

namespace Describes

variable {account : LedgerSession} {session : Session Memory}

theorem held (describes : account.Describes session) :
    session.device = ⟨image account.records⟩ := by
  cases describes with
  | vacant held => exact congrArg Memory.mk held
  | shut _ _ describes => exact congrArg Memory.mk describes.contents
  | working describes => exact congrArg Memory.mk describes.contents

theorem within (describes : account.Describes session) :
    AllWithin maxPayloadSize account.records := by
  cases describes with
  | vacant _ within => exact within
  | shut _ _ describes => exact describes.within.mono (Config.payloadLimit_le _)
  | working describes => exact describes.within.mono (Config.payloadLimit_le _)

theorem exists_store {limit : Nat} (describes : account.Describes session)
    (working : account.mode = .working limit) :
    ∃ store, session = .opened store ∧ account.ledger.Describes store ∧
      store.config.payloadLimit = limit := by
  cases describes with
  | vacant => cases working
  | shut => cases working
  | working describes =>
      cases working
      exact ⟨_, rfl, describes, rfl⟩

/-! ## Steps -/

theorem run_opened (operation : StoreOperation) (store : Store Memory) :
    (Session.opened store).run operation.run =
      (some (operation.outcome store).1, .opened (operation.outcome store).2) := by
  rw [Session.run, StoreOperation.outcome]
  cases operation.run store <;> rfl

theorem operate (describes : account.Describes session) (operation : StoreOperation) :
    ∃ after, session.run operation.run = ((account.operate operation).1, after) ∧
      (account.operate operation).2.Describes after := by
  cases describes with
  | vacant held within => exact ⟨_, rfl, .vacant held within⟩
  | shut store closed describes =>
      rcases operation.outcome_of_closed closed with ⟨stats, outcome⟩
      rw [run_opened, outcome]
      exact ⟨_, rfl, .shut { store with stats := stats } closed (describes.restat stats)⟩
  | @working ledger store describes =>
      rw [run_opened]
      by_cases close : operation = .close
      · subst close
        rcases store with ⟨memory, index, config, stats, isOpen⟩
        cases describes.isOpen
        exact ⟨_, rfl, .shut ⟨memory, index, config, stats, false⟩ rfl describes⟩
      · rcases describes.outcome_eq close with ⟨after, outcome, afterDescribes, sameConfig⟩
        refine ⟨.opened after, ?_, ?_⟩
        · rw [outcome]
          rfl
        · simp only [LedgerSession.operate, if_neg close]
          rw [← sameConfig] at afterDescribes ⊢
          exact .working afterDescribes

theorem reopen (describes : account.Describes session) (config : Config) :
    ∃ after, session.reopen config = ((account.reopen config).1, after) ∧
      (account.reopen config).2.Describes after := by
  rw [Session.reopen, Session.drop_memory, describes.held, Session.start,
    LedgerSession.reopen]
  cases failed : openingFailure? config.payloadLimit 0 account.records with
  | none =>
      have within := openingFailure?_eq_none_iff.mp failed
      rw [Medium.openStore_memory, Store.openDevice_image within]
      exact ⟨_, rfl, .working (Ledger.describes_opened within)⟩
  | some failure =>
      rw [Medium.openStore_memory, Store.openDevice_overLimit describes.within failed]
      exact ⟨_, rfl, .vacant rfl describes.within⟩

/-- One step of a session is one step of its ledger session. -/
theorem step (describes : account.Describes session) (step : SessionStep) :
    ∃ after, session.step step = ((account.step step).1, after) ∧
      (account.step step).2.Describes after := by
  cases step with
  | operate operation =>
      rcases describes.operate operation with ⟨after, ran, afterDescribes⟩
      refine ⟨after, ?_, afterDescribes⟩
      rw [Session.step, ran, LedgerSession.step]
  | reopen config =>
      rcases describes.reopen config with ⟨after, ran, afterDescribes⟩
      refine ⟨after, ?_, afterDescribes⟩
      rw [Session.step, ran, LedgerSession.step]

/-- A run of a session is the run of its ledger session. -/
theorem runAll (describes : account.Describes session) (steps : List SessionStep) :
    ∃ after, session.runAll steps = ((account.runAll steps).1, after) ∧
      (account.runAll steps).2.Describes after := by
  induction steps generalizing account session with
  | nil => exact ⟨session, rfl, describes⟩
  | cons first rest induction =>
      rcases describes.step first with ⟨middle, stepped, middleDescribes⟩
      rcases induction middleDescribes with ⟨after, ran, afterDescribes⟩
      refine ⟨after, ?_, afterDescribes⟩
      rw [Session.runAll, stepped, LedgerSession.runAll]
      simp only [ran]

end Describes

/-- A session in memory on some records, just started. -/
theorem Describes.start (config : Config) {records : List Record}
    (within : AllWithin config.payloadLimit records) :
    Session.start config (⟨image records⟩ : Memory) =
        (.ok (), .opened (Store.opened config records)) ∧
      Describes ⟨.ofRecords records, .working config.payloadLimit⟩
        (.opened (Store.opened config records)) := by
  constructor
  · rw [Session.start, Medium.openStore_memory, Store.openDevice_image within]
  · exact .working (Ledger.describes_opened within)

/-! ## Sessions on faithful media -/

/-- The session stands for one in memory that the ledger session describes. -/
structure Accounts {δ : Type} [Medium δ] [FaithfulMedium δ] (account : LedgerSession)
    (session : Session δ) : Prop where
  sound : FaithfulDevice.Sound session.device
  describes : account.Describes session.inMemory

variable {δ : Type} [Medium δ] [FaithfulMedium δ]

/-- A session starts with all keys of the records in use. -/
theorem exists_accounts_of_start {config : Config} {device : δ} {session : Session δ}
    (sound : FaithfulDevice.Sound device)
    (started : Session.start config device = (.ok (), session)) :
    ∃ records, AllWithin config.payloadLimit records ∧
      FaithfulDevice.contents device = image records ∧
      Accounts ⟨.ofRecords records, .working config.payloadLimit⟩ session := by
  rw [Session.start] at started
  cases accepted : Medium.openStore config device with
  | error reported =>
      rw [accepted] at started
      cases started
  | ok store =>
      rw [accepted] at started
      cases started
      rcases FaithfulMedium.opens sound accepted with ⟨storeSound, kept, memoryAccepted⟩
      have memorySound := FaithfulDevice.sound_memory ⟨FaithfulDevice.contents device⟩
      rcases Store.exists_records_of_openDevice memorySound memoryAccepted with
        ⟨records, within, held, same⟩
      have describes := Ledger.describes_inMemory.mp
        (same.symm ▸ Ledger.describes_opened within)
      have sameConfig : store.config = config := congrArg Store.config same
      refine ⟨records, within, held, storeSound, ?_⟩
      rw [← sameConfig]
      exact .working describes

namespace Accounts

variable {account : LedgerSession} {session : Session δ}

theorem contents (accounts : account.Accounts session) :
    FaithfulDevice.contents session.device = image account.records := by
  have held := accounts.describes.held
  rw [Session.device_inMemory] at held
  exact congrArg Memory.bytes held

theorem exists_store {limit : Nat} (accounts : account.Accounts session)
    (working : account.mode = .working limit) :
    ∃ store, session = .opened store ∧ account.ledger.Describes store ∧
      store.config.payloadLimit = limit := by
  rcases accounts.describes.exists_store working with ⟨reference, same, describes, sameLimit⟩
  cases session with
  | vacant device => cases same
  | opened store =>
      cases same
      exact ⟨store, rfl, Ledger.describes_inMemory.mp describes, sameLimit⟩

theorem step (accounts : account.Accounts session) (step : SessionStep)
    (served : ¬(session.step step).1.IsRefusal) :
    (session.step step).1 = (account.step step).1 ∧
      (account.step step).2.Accounts (session.step step).2 := by
  rcases Session.step_inMemory accounts.sound served with ⟨sound, reflected⟩
  rcases accounts.describes.step step with ⟨after, stepped, describes⟩
  rw [reflected] at stepped
  rcases Prod.mk.inj stepped with ⟨sameAnswer, sameSession⟩
  rw [← sameSession] at describes
  exact ⟨sameAnswer, sound, describes⟩

/-- Opening succeeds when the limit allows every payload, and then finds the same
records with all their keys in use. -/
theorem reopen_ok (accounts : account.Accounts session) {config : Config}
    {after : Session δ} (ran : session.reopen config = (.ok (), after)) :
    AllWithin config.payloadLimit account.records ∧
      Accounts ⟨.ofRecords account.records, .working config.payloadLimit⟩ after := by
  have stepped : session.step (.reopen config) = (.reopened (.ok ()), after) := by
    rw [Session.step, ran]
  rcases accounts.step (.reopen config) (by rw [stepped]; exact id) with ⟨answered, afterAccounts⟩
  rw [stepped] at answered afterAccounts
  simp only [LedgerSession.step, LedgerSession.reopen] at answered afterAccounts
  cases failed : openingFailure? config.payloadLimit 0 account.records with
  | some failure =>
      rw [failed] at answered
      cases answered
  | none =>
      rw [failed] at afterAccounts
      exact ⟨openingFailure?_eq_none_iff.mp failed, afterAccounts⟩

/-- Opening fails at the first payload over the limit, unless the medium refuses it. -/
theorem reopen_error (accounts : account.Accounts session) {config : Config}
    {failure : StoreError} {after : Session δ}
    (ran : session.reopen config = (.error failure, after))
    (served : ¬failure.IsRefusal) :
    openingFailure? config.payloadLimit 0 account.records = some failure ∧
      Accounts ⟨account.ledger, .vacant⟩ after := by
  have stepped : session.step (.reopen config) = (.reopened (.error failure), after) := by
    rw [Session.step, ran]
  rcases accounts.step (.reopen config) (by rw [stepped]; exact served) with
    ⟨answered, afterAccounts⟩
  rw [stepped] at answered afterAccounts
  simp only [LedgerSession.step, LedgerSession.reopen] at answered afterAccounts
  cases failed : openingFailure? config.payloadLimit 0 account.records with
  | none =>
      rw [failed] at answered
      cases answered
  | some expected =>
      rw [failed] at answered afterAccounts
      cases answered
      exact ⟨rfl, afterAccounts⟩

theorem runAll (accounts : account.Accounts session) {steps : List SessionStep}
    (served : ∀ answer ∈ (session.runAll steps).1, ¬answer.IsRefusal) :
    (session.runAll steps).1 = (account.runAll steps).1 ∧
      (account.runAll steps).2.Accounts (session.runAll steps).2 := by
  rcases Session.runAll_inMemory accounts.sound served with ⟨sound, reflected⟩
  rcases accounts.describes.runAll steps with ⟨after, ran, describes⟩
  rw [reflected] at ran
  rcases Prod.mk.inj ran with ⟨sameAnswers, sameSession⟩
  rw [← sameSession] at describes
  exact ⟨sameAnswers, sound, describes⟩

end Accounts

end LedgerSession

end PackedRecords
