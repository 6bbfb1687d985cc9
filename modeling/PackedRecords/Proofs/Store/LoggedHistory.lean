import PackedRecords.Proofs.Store.History
import PackedRecords.Proofs.Store.Planned

/-! # Histories with a log

On a device that keeps a log every turn of a history has its own part of the log. The turn
has carried out the plan that its operation had when it began.
-/

namespace PackedRecords

namespace StoreOperation

variable {δ : Type} [ByteDevice δ]

/-- What the turns of a history add and what they miss is in the end added up. -/
theorem balance_runAll (counter : Stats → Nat) {missed amount : StoreTurn δ → Nat}
    {operations : List StoreOperation} {store : Store δ}
    (each : ∀ turn ∈ history operations store,
      counter turn.after.stats + missed turn = counter turn.before.stats + amount turn) :
    counter (runAll operations store).2.stats + ((history operations store).map missed).sum =
      counter store.stats + ((history operations store).map amount).sum := by
  induction operations generalizing store with
  | nil => rfl
  | cons operation rest induction =>
      rw [history] at each ⊢
      rcases List.forall_mem_cons.mp each with ⟨here, later⟩
      have added : counter (operation.outcome store).2.stats + missed (operation.turn store) =
          counter store.stats + amount (operation.turn store) := here
      have total := induction later
      have same : (runAll (operation :: rest) store).2 =
          (runAll rest (operation.outcome store).2).2 := rfl
      rw [List.map_cons, List.sum_cons, List.map_cons, List.sum_cons, same]
      omega

/-- What every turn keeps up holds before every turn, and so does what follows from it. -/
theorem forall_history {invariant : Store δ → Prop} {property : StoreTurn δ → Prop}
    (permitted : StoreTurn δ → Prop)
    (step : ∀ (operation : StoreOperation) (store : Store δ), invariant store →
      permitted (operation.turn store) →
      property (operation.turn store) ∧ invariant (operation.outcome store).2)
    {operations : List StoreOperation} {store : Store δ} (start : invariant store)
    (all : ∀ turn ∈ history operations store, permitted turn) :
    ∀ turn ∈ history operations store, property turn := by
  induction operations generalizing store with
  | nil => exact List.forall_mem_nil _
  | cons operation rest induction =>
      rcases List.forall_mem_cons.mp all with ⟨here, later⟩
      rcases step operation store start here with ⟨holds, next⟩
      exact List.forall_mem_cons.mpr ⟨holds, induction next later⟩

theorem sound_outcome [FaithfulDevice δ] (operation : StoreOperation) {store : Store δ}
    (sound : FaithfulDevice.Sound store.device) :
    FaithfulDevice.Sound (operation.outcome store).2.device := by
  rw [outcome]
  cases ran : operation.run store with
  | ok answer after => exact (operation.follows_run.ok sound ran).1
  | error failure after => exact (operation.follows_run.error sound ran).1

end StoreOperation

namespace StoreTurn

variable {δ : Type}

/-- The calls of the turn. -/
def log (turn : StoreTurn (Logged δ)) : List LoggedCall :=
  turn.after.device.log.drop turn.before.device.log.length

/-- No call of the turn was refused. -/
def Served (turn : StoreTurn (Logged δ)) : Prop :=
  ∀ entry ∈ turn.log, entry.served = true

instance (turn : StoreTurn (Logged δ)) : Decidable turn.Served :=
  inferInstanceAs (Decidable (∀ entry ∈ turn.log, entry.served = true))

variable [ByteDevice δ] [FaithfulDevice δ]

/-- The turn ran its operation, which carried out its plan. -/
structure Carries (turn : StoreTurn (Logged δ)) : Prop where
  ran : turn = turn.operation.turn turn.before
  config : turn.after.config = turn.before.config
  log : turn.after.device.log = turn.before.device.log ++ turn.log
  carried : Carried (turn.operation.plan turn.before.inMemory) turn.answer.isOk
    turn.before.books turn.log turn.after.books

end StoreTurn

namespace StoreOperation

variable {δ : Type} [ByteDevice δ] [FaithfulDevice δ] {store : Store (Logged δ)}
  (sound : FaithfulDevice.Sound store.device)
include sound

theorem carries_turn (operation : StoreOperation) : (operation.turn store).Carries := by
  rcases operation.carriesOut sound with ⟨sameConfig, log, logged, carried⟩
  have ended : operation.outcome store =
      ((operation.outcome store).1, finalState (operation.run store)) ∧
        (operation.outcome store).1.isOk = succeeds (operation.run store) := by
    rw [outcome]
    cases operation.run store <;> exact ⟨rfl, rfl⟩
  have sameAfter : (operation.turn store).after = finalState (operation.run store) :=
    congrArg Prod.snd ended.1
  have ownLog : (operation.turn store).log = log := by
    rw [StoreTurn.log, sameAfter, logged]
    exact List.drop_left
  refine ⟨rfl, ?_, ?_, ?_⟩
  · rw [sameAfter]
    exact sameConfig
  · rw [ownLog, sameAfter]
    exact logged
  · rw [ownLog, sameAfter]
    change Carried _ (operation.outcome store).1.isOk _ _ _
    rw [ended.2]
    exact carried

theorem carries_history (operations : List StoreOperation) :
    ∀ turn ∈ history operations store, turn.Carries := by
  have step (operation : StoreOperation) (reached : Store (Logged δ))
      (reachedSound : FaithfulDevice.Sound reached.device) (_ : True) :
      (operation.turn reached).Carries ∧
        FaithfulDevice.Sound (operation.outcome reached).2.device :=
    ⟨operation.carries_turn reachedSound, operation.sound_outcome reachedSound⟩
  exact forall_history (fun _ => True) step sound fun _ _ => trivial

end StoreOperation

/-- A store just opened has the settings it was opened with and has counted nothing yet. -/
theorem Store.openDevice_fresh {δ : Type} [ByteDevice δ] {config : Config} {device : δ}
    {store : Store δ} (accepted : openDevice config device = .ok store) :
    store.config = config ∧ store.stats = {} := by
  rw [openDevice] at accepted
  split at accepted
  · cases accepted
    exact ⟨rfl, rfl⟩
  · cases accepted

/-- An empty device that has not been called yet. -/
def Logged.fresh : Logged Memory :=
  ⟨⟨ByteArray.empty⟩, []⟩

/-- The store that is opened on it. -/
def Store.onFresh (config : Config) : Store (Logged Memory) :=
  (opened config []).withDevice { Logged.fresh with log := [TracedCall.size.served] }

theorem Store.openDevice_fresh_device (config : Config) :
    openDevice config Logged.fresh = .ok (onFresh config) := by
  cbv

end PackedRecords
