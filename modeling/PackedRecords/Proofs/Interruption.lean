import PackedRecords.Proofs.Simulation

/-! # Computations that may stop anywhere

A computation keeps an invariant when every state it can leave behind satisfies it,
whether the computation comes to its end or stops at a failure on the way. What is
known about the answers lets one step rely on the step before it.
-/

namespace PackedRecords

variable {ε σ α β : Type} {invariant : σ → Prop} {answers : α → Prop}
  {action : EStateM ε σ α}

/-- Wrapping up an answer changes no state. -/
theorem finalState_bind_pure (action : EStateM ε σ α) (wrap : α → β) (state : σ) :
    finalState ((action >>= fun value => pure (wrap value)) state) =
      finalState (action state) := by
  cases ran : action state with
  | ok value after => rw [bind_of_ok ran, pure_run, finalState, finalState]
  | error failure after => rw [bind_of_error ran, finalState, finalState]

/-- The invariant survives every failure, and an answer is one of `answers`. -/
def Keeps (invariant : σ → Prop) (action : EStateM ε σ α) (answers : α → Prop) : Prop :=
  ∀ state, invariant state →
    match action state with
    | .ok value after => invariant after ∧ answers value
    | .error _ after => invariant after

theorem Keeps.ok (keeps : Keeps invariant action answers) {state after : σ} {value : α}
    (holds : invariant state) (ran : action state = .ok value after) :
    invariant after ∧ answers value := by
  have step := keeps state holds
  rwa [ran] at step

theorem Keeps.error (keeps : Keeps invariant action answers) {state after : σ} {failure : ε}
    (holds : invariant state) (ran : action state = .error failure after) :
    invariant after := by
  have step := keeps state holds
  rwa [ran] at step

theorem Keeps.mono (keeps : Keeps invariant action answers) {wider : α → Prop}
    (implies : ∀ value, answers value → wider value) : Keeps invariant action wider := by
  intro state holds
  have step := keeps state holds
  cases ran : action state with
  | ok value after =>
      rw [ran] at step
      exact ⟨step.1, implies value step.2⟩
  | error failure after =>
      rw [ran] at step
      exact step

theorem keeps_pure {value : α} (known : answers value) :
    Keeps invariant (pure value : EStateM ε σ α) answers :=
  fun _ holds => ⟨holds, known⟩

theorem keeps_throw (failure : ε) :
    Keeps invariant (throw failure : EStateM ε σ α) answers :=
  fun _ holds => holds

/-- What stands behind a failure is never reached. -/
theorem keeps_throw_bind (failure : ε) (next : α → EStateM ε σ β) {last : β → Prop} :
    Keeps invariant (throw failure >>= next) last :=
  fun _ holds => holds

theorem Keeps.bind {next : α → EStateM ε σ β} {last : β → Prop}
    (first : Keeps invariant action answers)
    (second : ∀ value, answers value → Keeps invariant (next value) last) :
    Keeps invariant (action >>= next) last := by
  intro state holds
  cases ran : action state with
  | ok value middle =>
      rcases first.ok holds ran with ⟨middleHolds, known⟩
      rw [bind_of_ok ran]
      exact second value known middle middleHolds
  | error failure after =>
      rw [bind_of_error ran]
      exact first.error holds ran

/-! ## Failures of certain kinds -/

/-- Run from this state, the computation ends with the invariant, and a failure is one
of `permitted`. -/
def ConfinedFrom (invariant : σ → Prop) (permitted : ε → Prop) (action : EStateM ε σ α)
    (state : σ) : Prop :=
  match action state with
  | .ok _ after => invariant after
  | .error failure after => invariant after ∧ permitted failure

/-- The invariant survives whatever happens, and a failure is one of `permitted`. -/
def Confined (invariant : σ → Prop) (permitted : ε → Prop) (action : EStateM ε σ α) : Prop :=
  ∀ state, invariant state → ConfinedFrom invariant permitted action state

section Confined

variable {permitted : ε → Prop}

theorem ConfinedFrom.ok {state after : σ} {value : α}
    (confined : ConfinedFrom invariant permitted action state)
    (ran : action state = .ok value after) : invariant after := by
  rwa [ConfinedFrom, ran] at confined

theorem ConfinedFrom.error {state after : σ} {failure : ε}
    (confined : ConfinedFrom invariant permitted action state)
    (ran : action state = .error failure after) : invariant after ∧ permitted failure := by
  rwa [ConfinedFrom, ran] at confined

theorem ConfinedFrom.of_eq {other : EStateM ε σ α} {state : σ}
    (confined : ConfinedFrom invariant permitted other state)
    (same : action state = other state) : ConfinedFrom invariant permitted action state := by
  rwa [ConfinedFrom, same]

/-- A step with a known result leaves it to the rest. -/
theorem ConfinedFrom.of_ok {next : α → EStateM ε σ β} {state middle : σ} {value : α}
    (rest : ConfinedFrom invariant permitted (next value) middle)
    (ran : action state = .ok value middle) :
    ConfinedFrom invariant permitted (action >>= next) state := by
  rw [ConfinedFrom, bind_of_ok ran]
  exact rest

theorem ConfinedFrom.bind {next : α → EStateM ε σ β} {state : σ}
    (first : ConfinedFrom invariant permitted action state)
    (second : ∀ value, Confined invariant permitted (next value)) :
    ConfinedFrom invariant permitted (action >>= next) state := by
  cases ran : action state with
  | ok value middle => exact ConfinedFrom.of_ok (second value middle (first.ok ran)) ran
  | error failure after =>
      rw [ConfinedFrom, bind_of_error ran]
      exact first.error ran

/-- What stands behind a failure is never reached. -/
theorem ConfinedFrom.throw_bind {failure : ε} (allowed : permitted failure) {state : σ}
    (holds : invariant state) (next : α → EStateM ε σ β) :
    ConfinedFrom invariant permitted (throw failure >>= next) state :=
  ⟨holds, allowed⟩

theorem Confined.ok (confined : Confined invariant permitted action) {state after : σ}
    {value : α} (holds : invariant state) (ran : action state = .ok value after) :
    invariant after :=
  (confined state holds).ok ran

theorem Confined.error (confined : Confined invariant permitted action) {state after : σ}
    {failure : ε} (holds : invariant state) (ran : action state = .error failure after) :
    invariant after ∧ permitted failure :=
  (confined state holds).error ran

theorem confined_pure (value : α) :
    Confined invariant permitted (pure value : EStateM ε σ α) :=
  fun _ holds => holds

theorem confined_throw {failure : ε} (allowed : permitted failure) :
    Confined invariant permitted (throw failure : EStateM ε σ α) :=
  fun _ holds => ⟨holds, allowed⟩

theorem confined_throw_bind {failure : ε} (allowed : permitted failure)
    (next : α → EStateM ε σ β) : Confined invariant permitted (throw failure >>= next) :=
  fun _ holds => ConfinedFrom.throw_bind allowed holds next

theorem Confined.bind {next : α → EStateM ε σ β}
    (first : Confined invariant permitted action)
    (second : ∀ value, Confined invariant permitted (next value)) :
    Confined invariant permitted (action >>= next) :=
  fun state holds => (first state holds).bind second

/-- What is confined with its answer wrapped up is confined. -/
theorem Confined.of_bind_pure {wrap : α → β}
    (confined : Confined invariant permitted (action >>= fun value => pure (wrap value))) :
    Confined invariant permitted action := by
  intro state holds
  have step := confined state holds
  rw [ConfinedFrom] at step ⊢
  cases ran : action state with
  | ok value after =>
      rwa [bind_of_ok ran, pure_run] at step
  | error failure after =>
      rwa [bind_of_error ran] at step

end Confined

end PackedRecords
