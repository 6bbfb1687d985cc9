import Mathlib

/-! # Computations that simulate others

A computation on states of one kind follows a computation on states of another kind
when it returns the same value or failure from every state that stands for the
other's, and ends in a state that stands for the other's again. It may also be
refused, with a failure that the other kind does not know; what it has done by then
is left open.
-/

namespace PackedRecords

/-! ## Running one step after another -/

section Running

variable {ε σ α β : Type} {action : EStateM ε σ α} {next : α → EStateM ε σ β}
  {state after : σ}

theorem bind_of_ok {value : α} (ran : action state = .ok value after) :
    (action >>= next) state = next value after := by
  change EStateM.bind action next state = _
  rw [EStateM.bind, ran]

theorem bind_of_error {failure : ε} (ran : action state = .error failure after) :
    (action >>= next) state = .error failure after := by
  change EStateM.bind action next state = _
  rw [EStateM.bind, ran]

/-- What succeeds as a whole has succeeded step by step. -/
theorem exists_of_bind_ok {value : β} (ran : (action >>= next) state = .ok value after) :
    ∃ result middle, action state = .ok result middle ∧ next result middle = .ok value after := by
  cases reached : action state with
  | ok result middle =>
      rw [bind_of_ok reached] at ran
      exact ⟨result, middle, rfl, ran⟩
  | error failure middle =>
      rw [bind_of_error reached] at ran
      cases ran

/-- What fails as a whole has failed in its first step or in what follows it. -/
theorem cases_of_bind_error {failure : ε}
    (ran : (action >>= next) state = .error failure after) :
    action state = .error failure after ∨
      ∃ result middle, action state = .ok result middle ∧
        next result middle = .error failure after := by
  cases reached : action state with
  | ok result middle =>
      rw [bind_of_ok reached] at ran
      exact .inr ⟨result, middle, rfl, ran⟩
  | error reason middle =>
      rw [bind_of_error reached] at ran
      cases ran
      exact .inl rfl

/-- An answer that is only wrapped up can be unwrapped again. -/
theorem ok_of_bind_pure {wrap : α → β}
    (injective : ∀ left right, wrap left = wrap right → left = right) {value : α}
    (ran : (action >>= fun value => pure (wrap value)) state = .ok (wrap value) after) :
    action state = .ok value after := by
  cases reached : action state with
  | ok other final =>
      rw [bind_of_ok reached] at ran
      cases EStateM.Result.ok.inj ran with
      | intro same sameState => rw [injective _ _ same, sameState]
  | error failure final =>
      rw [bind_of_error reached] at ran
      cases ran

theorem error_of_bind_pure {wrap : α → β} {failure : ε}
    (ran : (action >>= fun value => pure (wrap value)) state = .error failure after) :
    action state = .error failure after := by
  cases reached : action state with
  | ok value final =>
      rw [bind_of_ok reached] at ran
      cases ran
  | error other final =>
      rw [bind_of_error reached] at ran
      cases ran
      rfl

theorem pure_run (value : α) : (pure value : EStateM ε σ α) state = .ok value state :=
  rfl

theorem throw_run (failure : ε) :
    (throw failure : EStateM ε σ α) state = .error failure state :=
  rfl

/-- The state that a computation ends in, whether or not it fails. -/
def finalState : EStateM.Result ε σ α → σ
  | .ok _ state | .error _ state => state

/-- Whether a computation comes to its end. -/
def succeeds : EStateM.Result ε σ α → Bool
  | .ok _ _ => true
  | .error _ _ => false

theorem exists_of_succeeds {result : EStateM.Result ε σ α} (success : succeeds result = true) :
    ∃ value after, result = .ok value after := by
  cases result with
  | ok value after => exact ⟨value, after, rfl⟩
  | error failure after => cases success

theorem exists_of_not_succeeds {result : EStateM.Result ε σ α}
    (failed : succeeds result = false) : ∃ failure after, result = .error failure after := by
  cases result with
  | ok value after => cases failed
  | error failure after => exact ⟨failure, after, rfl⟩

end Running

/-! ## Following -/

/-- How states of kind `σ` stand for states of kind `τ`. -/
structure Reflection (σ τ ε : Type) where
  /-- The states that stand for one of kind `τ`. -/
  Sound : σ → Prop
  view : σ → τ
  /-- The failures that computations on `τ` do not know. -/
  Refusal : ε → Prop

namespace Reflection

variable {σ τ ε α β : Type} {reflection : Reflection σ τ ε}

/-- `action` does what `reference` does, unless it is refused. -/
def Follows (reflection : Reflection σ τ ε) (action : EStateM ε σ α)
    (reference : EStateM ε τ α) : Prop :=
  ∀ state, reflection.Sound state →
    match action state with
    | .ok value after =>
        reflection.Sound after ∧
          reference (reflection.view state) = .ok value (reflection.view after)
    | .error failure after =>
        reflection.Sound after ∧
          (reflection.Refusal failure ∨
            reference (reflection.view state) = .error failure (reflection.view after))

theorem Follows.ok {action : EStateM ε σ α} {reference : EStateM ε τ α}
    (follows : reflection.Follows action reference) {state after : σ} {value : α}
    (sound : reflection.Sound state) (ran : action state = .ok value after) :
    reflection.Sound after ∧
      reference (reflection.view state) = .ok value (reflection.view after) := by
  have step := follows state sound
  rwa [ran] at step

theorem Follows.error {action : EStateM ε σ α} {reference : EStateM ε τ α}
    (follows : reflection.Follows action reference) {state after : σ} {failure : ε}
    (sound : reflection.Sound state) (ran : action state = .error failure after) :
    reflection.Sound after ∧
      (reflection.Refusal failure ∨
        reference (reflection.view state) = .error failure (reflection.view after)) := by
  have step := follows state sound
  rwa [ran] at step

/-- What the reference succeeds in and what is not refused succeeds. -/
theorem Follows.ok_of_reference {action : EStateM ε σ α} {reference : EStateM ε τ α}
    (follows : reflection.Follows action reference) {state : σ} {value : α} {seen : τ}
    (sound : reflection.Sound state)
    (served : ∀ failure after, action state = .error failure after →
      ¬reflection.Refusal failure)
    (ran : reference (reflection.view state) = .ok value seen) :
    ∃ after, action state = .ok value after ∧ reflection.Sound after ∧
      reflection.view after = seen := by
  cases outcome : action state with
  | ok other after =>
      rcases follows.ok sound outcome with ⟨afterSound, referenceRan⟩
      rw [ran] at referenceRan
      cases referenceRan
      exact ⟨after, rfl, afterSound, rfl⟩
  | error failure after =>
      rcases (follows.error sound outcome).2 with refused | referenceRan
      · exact absurd refused (served failure after outcome)
      · rw [ran] at referenceRan
        cases referenceRan

theorem follows_pure (value : α) :
    reflection.Follows (pure value : EStateM ε σ α) (pure value) := by
  intro state sound
  exact ⟨sound, rfl⟩

theorem follows_throw (failure : ε) :
    reflection.Follows (throw failure : EStateM ε σ α) (throw failure) := by
  intro state sound
  exact ⟨sound, .inr rfl⟩

theorem Follows.bind {action : EStateM ε σ α} {reference : EStateM ε τ α}
    {next : α → EStateM ε σ β} {referenceNext : α → EStateM ε τ β}
    (first : reflection.Follows action reference)
    (second : ∀ value, reflection.Follows (next value) (referenceNext value)) :
    reflection.Follows (action >>= next) (reference >>= referenceNext) := by
  intro state sound
  cases ran : action state with
  | ok value middle =>
      rcases first.ok sound ran with ⟨middleSound, referenceRan⟩
      rw [bind_of_ok ran, bind_of_ok referenceRan]
      exact second value middle middleSound
  | error failure after =>
      rcases first.error sound ran with ⟨afterSound, refused | referenceRan⟩
      · rw [bind_of_error ran]
        exact ⟨afterSound, .inl refused⟩
      · rw [bind_of_error ran, bind_of_error referenceRan]
        exact ⟨afterSound, .inr rfl⟩

/-- What stands behind a failure is never reached. -/
theorem follows_throw_bind (failure : ε) (next : α → EStateM ε σ β)
    (referenceNext : α → EStateM ε τ β) :
    reflection.Follows (throw failure >>= next) (throw failure >>= referenceNext) :=
  follows_throw failure

/-- What follows with its answer wrapped up follows. -/
theorem Follows.of_bind_pure {action : EStateM ε σ α} {reference : EStateM ε τ α}
    {wrap : α → β} (injective : ∀ left right, wrap left = wrap right → left = right)
    (follows : reflection.Follows (action >>= fun value => pure (wrap value))
      (reference >>= fun value => pure (wrap value))) :
    reflection.Follows action reference := by
  intro state sound
  cases ran : action state with
  | ok value after =>
      have wrappedRan : (action >>= fun value => pure (wrap value)) state =
          .ok (wrap value) after := bind_of_ok ran
      rcases follows.ok sound wrappedRan with ⟨afterSound, wrapped⟩
      exact ⟨afterSound, ok_of_bind_pure injective wrapped⟩
  | error failure after =>
      have wrappedRan : (action >>= fun value => pure (wrap value)) state =
          .error failure after := bind_of_error ran
      rcases follows.error sound wrappedRan with ⟨afterSound, refused | wrapped⟩
      · exact ⟨afterSound, .inl refused⟩
      · exact ⟨afterSound, .inr (error_of_bind_pure wrapped)⟩

end Reflection

end PackedRecords
