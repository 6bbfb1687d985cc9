import PackedRecords.Reference.Check
import PackedRecords.Store.Medium

/-! # Trials

A trial takes a store and a map of payloads through the same operations, starting with
both of them empty, and compares the two after each step. The store can be closed and
opened again in between.
-/

namespace PackedRecords

/-- One step of a trial. -/
inductive TrialStep where
  | operate (operation : RecordOperation)
  | reopen
deriving DecidableEq, Inhabited

/-- The key a step is about, if it is about one. -/
def TrialStep.key? : TrialStep → Option EntityId
  | operate operation => some operation.key
  | reopen => none

/-- The map and the store of a trial. -/
structure Trial (δ : Type) where
  payloads : PayloadMap
  store : Store δ

namespace Trial

def recordFile : Path := ⟨"roles.dat"⟩

variable {δ α : Type} [Medium δ]

def openStore (config : Config) (device : δ) : Except Mismatch (Store δ) :=
  match Medium.openStore config device with
  | .ok store => .ok store
  | .error (failure, _) => .error (.refused failure)

def start (config : Config) (device : δ) : Except Mismatch (Trial δ) := do
  return ⟨∅, ← openStore config device⟩

def check (action : CheckM δ α) (store : Store δ) : Except Mismatch (α × Store δ) :=
  match action store with
  | .ok value store => .ok (value, store)
  | .error mismatch _ => .error mismatch

def reopen (config : Config) (store : Store δ) : Except Mismatch (Store δ) := do
  let (_, store) ← check (CheckM.onStore Store.close) store
  openStore config store.dropped

def apply (config : Config) (trial : Trial δ) : TrialStep → Except Mismatch (Trial δ)
  | .operate operation => do
      let (payloads, store) ← check (trial.payloads.apply operation) trial.store
      return ⟨payloads, store⟩
  | .reopen => return ⟨trial.payloads, ← reopen config trial.store⟩

def verify (trial : Trial δ) : Except Mismatch (Trial δ) := do
  let (_, store) ← check trial.payloads.verify trial.store
  return ⟨trial.payloads, store⟩

def run (config : Config) (trial : Trial δ) (step : TrialStep) :
    Except Mismatch (Trial δ) := do
  (← apply config trial step).verify

end Trial

end PackedRecords
