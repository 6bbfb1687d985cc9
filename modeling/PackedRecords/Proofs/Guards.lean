import PackedRecords.Proofs.Simulation

/-! # Computations with guards

A guarded computation stops with a fault where a machine would: where a sum or a
difference leaves the range of its numbers, or a slice the range of its bytes. It does
without faults what a plain computation does if every guard holds when it is reached.
What is known about answers and states says why it does.
-/

namespace PackedRecords

/-- Why a machine would stop, or go on with a wrong number. -/
inductive Fault where
  | overflow
  | underflow
  | outOfRange
  | wraparound
deriving DecidableEq, Repr

/-- A computation that can end in a fault besides its failures. -/
abbrev Guarded (ε σ : Type) := ExceptT Fault (EStateM ε σ)

section

variable {ε σ α β : Type}

namespace Guarded

/-- Stops at a fault that the state shows. -/
def stopAt (fault? : σ → Option Fault) : Guarded ε σ Unit := fun state =>
  match fault? state with
  | none => .ok (.ok ()) state
  | some fault => .ok (.error fault) state

def assure (holds : Prop) [Decidable holds] (fault : Fault) : Guarded ε σ Unit :=
  stopAt fun _ => if holds then none else some fault

/-- A computation without guards. -/
def plainly (action : EStateM ε σ α) : Guarded ε σ α :=
  ExceptT.lift action

end Guarded

/-- The outcome of a computation in which every guard has held. -/
def withoutFault : EStateM.Result ε σ α → EStateM.Result ε σ (Except Fault α)
  | .ok value state => .ok (.ok value) state
  | .error failure state => .error failure state

/-- From a state of `before`, the guarded computation does without faults what the plain
one does. An answer is one of `answers` and leaves a state of `after`. -/
def Unfaulted (before : σ → Prop) (guarded : Guarded ε σ α) (plain : EStateM ε σ α)
    (answers : α → Prop) (after : σ → Prop) : Prop :=
  ∀ state, before state → guarded state = withoutFault (plain state) ∧
    ∀ value next, plain state = .ok value next → answers value ∧ after next

variable {before middle after : σ → Prop} {answers : α → Prop} {guarded : Guarded ε σ α}
  {plain : EStateM ε σ α}

theorem Unfaulted.mono (unfaulted : Unfaulted before guarded plain answers after)
    {sooner later : σ → Prop} {wider : α → Prop} (enough : ∀ state, sooner state → before state)
    (implies : ∀ value, answers value → wider value)
    (leaves : ∀ state, after state → later state) :
    Unfaulted sooner guarded plain wider later := by
  intro state holds
  rcases unfaulted state (enough state holds) with ⟨same, known⟩
  refine ⟨same, ?_⟩
  intro value next ran
  rcases known value next ran with ⟨answered, left⟩
  exact ⟨implies value answered, leaves next left⟩

theorem Unfaulted.of_before (unfaulted : Unfaulted before guarded plain answers after)
    {sooner : σ → Prop} (enough : ∀ state, sooner state → before state) :
    Unfaulted sooner guarded plain answers after :=
  unfaulted.mono enough (fun _ => id) fun _ => id

/-- No guard fails, whatever else is known. -/
abbrev Faultless (before : σ → Prop) (guarded : Guarded ε σ α) (plain : EStateM ε σ α) : Prop :=
  Unfaulted before guarded plain (fun _ => True) fun _ => True

theorem Unfaulted.faultless (unfaulted : Unfaulted before guarded plain answers after) :
    Faultless before guarded plain :=
  unfaulted.mono (fun _ => id) (fun _ _ => trivial) fun _ _ => trivial

/-! ## Single steps -/

theorem unfaulted_plainly
    (known : ∀ state, before state → ∀ value next, plain state = .ok value next →
      answers value ∧ after next) :
    Unfaulted before (Guarded.plainly plain) plain answers after := by
  intro state holds
  refine ⟨?_, known state holds⟩
  change EStateM.map Except.ok plain state = _
  rw [EStateM.map]
  cases plain state <;> rfl

theorem unfaulted_pure {value : α} (known : answers value) :
    Unfaulted before (pure value) (pure value : EStateM ε σ α) answers before := by
  intro state holds
  refine ⟨rfl, ?_⟩
  intro same next ran
  cases ran
  exact ⟨known, holds⟩

theorem faultless_plainly : Faultless before (Guarded.plainly plain) plain :=
  unfaulted_plainly fun _ _ _ _ _ => ⟨trivial, trivial⟩

theorem faultless_pure (value : α) :
    Faultless before (pure value) (pure value : EStateM ε σ α) := by
  have unfaulted : Unfaulted before (pure value) (pure value : EStateM ε σ α) (fun _ => True)
      before := unfaulted_pure trivial
  exact unfaulted.faultless

theorem unfaulted_throw (failure : ε) :
    Unfaulted before (Guarded.plainly (throw failure)) (throw failure : EStateM ε σ α) answers
      after := by
  refine unfaulted_plainly ?_
  intro state _ value next ran
  cases ran

/-! ## Composition -/

theorem Unfaulted.bind {next : α → Guarded ε σ β} {plainNext : α → EStateM ε σ β}
    {last : β → Prop} (first : Unfaulted before guarded plain answers middle)
    (second : ∀ value, answers value →
      Unfaulted middle (next value) (plainNext value) last after) :
    Unfaulted before (guarded >>= next) (plain >>= plainNext) last after := by
  intro state holds
  rcases first state holds with ⟨same, known⟩
  change EStateM.bind guarded (ExceptT.bindCont next) state = _ ∧ _
  rw [EStateM.bind, same]
  cases ran : plain state with
  | ok value reached =>
      rcases known value reached ran with ⟨answered, left⟩
      rw [bind_of_ok ran]
      exact second value answered reached left
  | error failure reached =>
      rw [bind_of_error ran]
      refine ⟨rfl, ?_⟩
      intro value next impossible
      cases impossible

/-- What stands behind a failure is never reached. -/
theorem unfaulted_throw_bind (failure : ε) (next : α → Guarded ε σ β)
    (plainNext : α → EStateM ε σ β) {last : β → Prop} :
    Unfaulted before (Guarded.plainly (throw failure) >>= next) (throw failure >>= plainNext)
      last after := by
  have thrown : Unfaulted before (Guarded.plainly (throw failure))
      (throw failure : EStateM ε σ α) (fun _ => False) after := unfaulted_throw failure
  exact thrown.bind fun _ impossible => impossible.elim

/-- A guard that holds in every state is passed. -/
theorem Unfaulted.stopAt {fault? : σ → Option Fault} {next : Unit → Guarded ε σ α}
    (none : ∀ state, before state → fault? state = none)
    (unfaulted : Unfaulted before (next ()) plain answers after) :
    Unfaulted before (Guarded.stopAt fault? >>= next) plain answers after := by
  intro state holds
  have passed : (Guarded.stopAt fault? : Guarded ε σ Unit) state = .ok (.ok ()) state := by
    rw [Guarded.stopAt, none state holds]
  change EStateM.bind _ (ExceptT.bindCont next) state = _ ∧ _
  rw [EStateM.bind, passed]
  exact unfaulted state holds

theorem Unfaulted.assure {condition : Prop} [Decidable condition] {fault : Fault}
    {next : Unit → Guarded ε σ α} (holds : condition)
    (unfaulted : Unfaulted before (next ()) plain answers after) :
    Unfaulted before (Guarded.assure condition fault >>= next) plain answers after :=
  unfaulted.stopAt fun _ _ => if_pos holds

end

end PackedRecords
