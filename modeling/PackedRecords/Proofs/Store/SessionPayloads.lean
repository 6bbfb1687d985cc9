import PackedRecords.Proofs.Reference.PayloadMap
import PackedRecords.Proofs.Store.Reopening
import PackedRecords.Proofs.Store.Retained

/-! # The payloads that a session leaves

The map of a session has the payloads of its successful puts, without those that were
replaced or removed later. Where no record is shadowed the ledger of the session has
the same payloads, so that they are found again as soon as the medium is opened under a
limit that allows them.
-/

namespace PackedRecords

namespace PayloadMap

/-- What a step does to the payloads, if it succeeds. -/
def afterStep (payloads : PayloadMap) : SessionStep → SessionAnswer → PayloadMap
  | .operate (.put key payload), .operated (some (.ok _)) => payloads.insert key payload
  | .operate (.remove key), .operated (some (.ok _)) => payloads.erase key
  | _, _ => payloads

/-- What steps with certain answers do to the payloads. -/
def afterSteps (payloads : PayloadMap) : List SessionStep → List SessionAnswer → PayloadMap
  | step :: steps, answer :: answers => (payloads.afterStep step answer).afterSteps steps answers
  | _, _ => payloads

/-- The map and the ledger have the same payloads, and the ledger no shadowed records. -/
structure Accords (payloads : PayloadMap) (ledger : Ledger) : Prop where
  agrees : payloads.Agrees ledger
  unshadowed : ∀ key, ledger.Unshadowed key

namespace Accords

variable {payloads : PayloadMap} {ledger : Ledger} (accords : payloads.Accords ledger)
include accords

theorem put (recorded : ∀ key ∈ ledger.live, key ∈ keysOf ledger.records) (key : EntityId)
    (payload : ByteArray) : Accords (payloads.insert key payload) (ledger.put key payload) :=
  ⟨accords.agrees.put recorded key payload, fun other =>
    (accords.unshadowed other).put key payload⟩

theorem remove (key : EntityId) : Accords (payloads.erase key) (ledger.remove key) :=
  ⟨accords.agrees.remove key, fun other => (accords.unshadowed other).remove key⟩

theorem allWithin {limit : Nat} (within : payloads.Within limit) :
    AllWithin limit ledger.records :=
  accords.agrees.allWithin accords.unshadowed within

theorem reopened : payloads.Accords (.ofRecords ledger.records) where
  agrees key := by
    rw [accords.agrees, (accords.unshadowed key).payload?_eq,
      ((accords.unshadowed key).reopened).payload?_eq]
    rfl
  unshadowed key := (accords.unshadowed key).reopened

end Accords

/-- No payloads are those of no records. -/
theorem accords_empty : Accords ∅ (.ofRecords []) where
  agrees := agrees_ofRecords []
  unshadowed _ := Ledger.unshadowed_ofRecords (Nat.zero_le 1)

end PayloadMap

variable {δ : Type} [Medium δ] [FaithfulMedium δ]

/-- Opening the medium under any limit that allows the payloads succeeds, and all of
them and no others are found. -/
def Session.Reopens (session : Session δ) (payloads : PayloadMap) : Prop :=
  ∀ config answer reopened, session.reopen config = (answer, reopened) →
    (∀ failure, answer = .error failure → ¬failure.IsRefusal) →
    payloads.Within config.payloadLimit →
    answer = .ok () ∧ ∃ found, reopened = .opened found ∧
      ∀ key, found.lookUp key = .ok payloads[key]?

namespace LedgerSession.Accounts

variable {account : LedgerSession} {session : Session δ} {payloads : PayloadMap}
  (accounts : account.Accounts session) (accords : payloads.Accords account.ledger)
include accounts accords

theorem reopens : session.Reopens payloads := by
  intro config answer reopened ran served within
  rcases accounts.reopen_of_allWithin ran served (accords.allWithin within) with
    ⟨answered, afterAccounts⟩
  rcases afterAccounts.exists_store rfl with ⟨found, same, describes, _⟩
  refine ⟨answered, found, same, ?_⟩
  intro key
  rw [describes.lookUp_eq, accords.reopened.agrees]
  rfl

/-- A step changes the ledger as it changes the map. -/
theorem accords_step (step : SessionStep) (served : ¬(session.step step).1.IsRefusal) :
    (payloads.afterStep step (session.step step).1).Accords (account.step step).2.ledger := by
  rw [(accounts.step step served).1]
  rcases account with ⟨ledger, mode⟩
  cases step with
  | reopen config =>
      simp only [LedgerSession.step, LedgerSession.reopen, LedgerSession.records]
      cases openingFailure? config.payloadLimit 0 ledger.records with
      | none => exact accords.reopened
      | some failure => exact accords
  | operate operation =>
      cases mode with
      | vacant => cases operation <;> exact accords
      | shut limit =>
          cases operation with
          | put key payload =>
              simp only [LedgerSession.step, LedgerSession.operate, closedAnswer]
              split <;> exact accords
          | _ => exact accords
      | working limit =>
          rcases accounts.exists_store rfl with ⟨store, _, describes, _⟩
          cases operation with
          | put key payload =>
              simp only [LedgerSession.step, LedgerSession.operate, Ledger.apply]
              split
              · exact accords
              · exact accords.put describes.recorded key payload
          | remove key => exact accords.remove key
          | _ => exact accords

end LedgerSession.Accounts

/-- A run changes the ledger as it changes the map. -/
theorem LedgerSession.Accounts.accords_runAll {account : LedgerSession} {session : Session δ}
    (accounts : account.Accounts session) {payloads : PayloadMap}
    (accords : payloads.Accords account.ledger) {steps : List SessionStep}
    (served : ∀ answer ∈ (session.runAll steps).1, ¬answer.IsRefusal) :
    (payloads.afterSteps steps (session.runAll steps).1).Accords
      (account.runAll steps).2.ledger := by
  induction steps generalizing account session payloads with
  | nil => exact accords
  | cons first rest induction =>
      rw [Session.runAll] at served ⊢
      rcases List.forall_mem_cons.mp served with ⟨firstServed, restServed⟩
      exact induction (accounts.step first firstServed).2
        (accounts.accords_step accords first firstServed) restServed

/-- A session that starts on an empty medium keeps a ledger of the payloads it has. -/
theorem LedgerSession.exists_accounts_of_empty {config : Config} {device : δ}
    {session : Session δ} (sound : FaithfulDevice.Sound device)
    (empty : FaithfulDevice.contents device = ByteArray.empty)
    (started : Session.start config device = (.ok (), session)) {steps : List SessionStep}
    (served : ∀ answer ∈ (session.runAll steps).1, ¬answer.IsRefusal) :
    ∃ account : LedgerSession, account.Accounts (session.runAll steps).2 ∧
      (PayloadMap.afterSteps ∅ steps (session.runAll steps).1).Accords account.ledger := by
  rcases exists_accounts_of_start sound started with ⟨records, within, held, accounts⟩
  have nothing : records = [] := by
    cases records with
    | nil => rfl
    | cons record rest =>
        have size := congrArg ByteArray.size (empty.symm.trans held)
        have positive := record.size_pos
        rw [size_image_cons, ByteArray.size_empty] at size
        omega
  subst nothing
  exact ⟨_, (accounts.runAll served).2, accounts.accords_runAll PayloadMap.accords_empty served⟩

end PackedRecords
