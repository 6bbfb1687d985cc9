import PackedRecords.Proofs.Device.Logged
import PackedRecords.Store.Operation

/-! # Plans of store operations

A plan lists the calls that an operation means to make of its device, in order, and between
them what it writes into the index and the counters. The operation carries out its plan as
far as the device serves the calls: the first call that is refused ends it, and what the
plan has behind that call is not done.
-/

namespace PackedRecords

/-- What a store keeps about its records and its own doings. -/
structure Books where
  index : Index
  stats : Stats

def Store.books {δ : Type} (store : Store δ) : Books :=
  ⟨store.index, store.stats⟩

inductive PlanStep where
  | call (call : TracedCall)
  | book (update : Books → Books)
  /-- The operation fails of its own accord. -/
  | refuse

namespace PlanStep

def count (update : Stats → Stats) : PlanStep :=
  .book fun books => { books with stats := update books.stats }

def reindex (update : Index → Index) : PlanStep :=
  .book fun books => { books with index := update books.index }

end PlanStep

/-- How a plan was carried out: whether to its end, the books before, the log of the calls
that were made, and the books after. -/
inductive Carried : List PlanStep → Bool → Books → List LoggedCall → Books → Prop where
  | done {books : Books} : Carried [] true books [] books
  | served {call : TracedCall} {plan : List PlanStep} {ended : Bool} {before after : Books}
      {log : List LoggedCall} (rest : Carried plan ended before log after) :
      Carried (.call call :: plan) ended before (call.served :: log) after
  | stopped {call : TracedCall} {plan : List PlanStep} {books : Books} :
      Carried (.call call :: plan) false books [call.refused] books
  | booked {update : Books → Books} {plan : List PlanStep} {ended : Bool}
      {before after : Books} {log : List LoggedCall}
      (rest : Carried plan ended (update before) log after) :
      Carried (.book update :: plan) ended before log after
  | refused {plan : List PlanStep} {books : Books} :
      Carried (.refuse :: plan) false books [] books

namespace Carried

variable {plan rest : List PlanStep} {calls : List TracedCall} {ended : Bool}
  {before middle after : Books} {log further : List LoggedCall}

/-! ## Parts of a plan -/

theorem append (first : Carried plan true before log middle)
    (second : Carried rest ended middle further after) :
    Carried (plan ++ rest) ended before (log ++ further) after := by
  induction plan generalizing before log with
  | nil =>
      cases first
      exact second
  | cons step plan induction =>
      cases first with
      | served first => exact served (induction first)
      | booked first => exact booked (induction first)

theorem append_of_stopped (first : Carried plan false before log after) :
    Carried (plan ++ rest) false before log after := by
  induction plan generalizing before log with
  | nil => cases first
  | cons step plan induction =>
      cases first with
      | served first => exact served (induction first)
      | stopped => exact stopped
      | booked first => exact booked (induction first)
      | refused => exact refused

theorem of_nil (carried : Carried [] ended before log after) : log = [] ∧ after = before := by
  cases carried with
  | done => exact ⟨rfl, rfl⟩

theorem of_book {update : Books → Books}
    (carried : Carried (.book update :: plan) ended before log after) :
    Carried plan ended (update before) log after := by
  cases carried with
  | booked rest => exact rest

/-- A sequence of calls is made as a whole, or up to a call that is refused. -/
theorem cases_calls_append (carried : Carried (calls.map .call ++ rest) ended before log after) :
    (∃ further, log = calls.map TracedCall.served ++ further ∧
        Carried rest ended before further after) ∨
      ended = false ∧ after = before ∧ ∃ made call others, calls = made ++ call :: others ∧
        log = made.map TracedCall.served ++ [call.refused] := by
  induction calls generalizing log with
  | nil => exact .inl ⟨log, rfl, carried⟩
  | cons call calls induction =>
      cases carried with
      | served carried =>
          rcases induction carried with
            ⟨further, rfl, ending⟩ | ⟨same, unchanged, made, last, others, rfl, rfl⟩
          · exact .inl ⟨further, rfl, ending⟩
          · exact .inr ⟨same, unchanged, call :: made, last, others, rfl, rfl⟩
      | stopped => exact .inr ⟨rfl, rfl, [], call, calls, rfl, rfl⟩

end Carried

/-! ## What a plan comes to -/

namespace PlanStep

/-- The calls that are made if none of them is refused. -/
def calls : List PlanStep → List TracedCall
  | [] | .refuse :: _ => []
  | .call made :: plan => made :: calls plan
  | .book _ :: plan => calls plan

/-- What is written into the books if no call is refused. -/
def updates : List PlanStep → List (Books → Books)
  | [] | .refuse :: _ => []
  | .call _ :: plan => updates plan
  | .book update :: plan => update :: updates plan

/-- The plan comes to its end if no call is refused. -/
def accepts : List PlanStep → Bool
  | [] => true
  | .refuse :: _ => false
  | .call _ :: plan | .book _ :: plan => accepts plan

variable (first second : List PlanStep)

theorem accepts_append : accepts (first ++ second) = (accepts first && accepts second) := by
  induction first with
  | nil => rfl
  | cons step first induction =>
      cases step with
      | refuse => rfl
      | call | book => exact induction

theorem calls_append :
    calls (first ++ second) =
      calls first ++ if accepts first then calls second else [] := by
  induction first with
  | nil => rfl
  | cons step first induction =>
      cases step with
      | refuse => rfl
      | call made => exact congrArg (made :: ·) induction
      | book update => exact induction

theorem updates_append :
    updates (first ++ second) =
      updates first ++ if accepts first then updates second else [] := by
  induction first with
  | nil => rfl
  | cons step first induction =>
      cases step with
      | refuse => rfl
      | call made => exact induction
      | book update => exact congrArg (update :: ·) induction

variable (made : List TracedCall)

theorem accepts_map_call : accepts (made.map .call) = true := by
  induction made with
  | nil => rfl
  | cons _ _ induction => exact induction

theorem calls_map_call : calls (made.map .call) = made := by
  induction made with
  | nil => rfl
  | cons call _ induction => exact congrArg (call :: ·) induction

theorem updates_map_call : updates (made.map .call) = [] := by
  induction made with
  | nil => rfl
  | cons _ _ induction => exact induction

end PlanStep

namespace Carried

variable {plan : List PlanStep} {ended : Bool} {before after : Books} {log : List LoggedCall}
  (carried : Carried plan ended before log after)
include carried

/-- Only planned calls are made. -/
theorem planned : ∀ entry ∈ log, entry.call ∈ PlanStep.calls plan := by
  induction carried with
  | done | refused => exact List.forall_mem_nil _
  | served _ induction =>
      exact List.forall_mem_cons.mpr ⟨List.mem_cons_self,
        fun entry member => List.mem_cons_of_mem _ (induction entry member)⟩
  | stopped => exact List.forall_mem_singleton.mpr List.mem_cons_self
  | booked _ induction => exact induction

/-- A part of the books that the plan does not write stays as it is. -/
theorem kept {α : Type} (part : Books → α)
    (keeps : ∀ update ∈ PlanStep.updates plan, ∀ books, part (update books) = part books) :
    part after = part before := by
  induction carried with
  | done | stopped | refused => rfl
  | served _ induction => exact induction keeps
  | booked _ induction =>
      rcases List.forall_mem_cons.mp keeps with ⟨first, others⟩
      exact (induction others).trans (first _)

/-- If no call is refused the plan alone decides what is done. -/
theorem of_served (served : ∀ entry ∈ log, entry.served = true) :
    ended = PlanStep.accepts plan ∧ log = (PlanStep.calls plan).map TracedCall.served ∧
      after = (PlanStep.updates plan).foldl (fun books update => update books) before := by
  induction carried with
  | done | refused => exact ⟨rfl, rfl, rfl⟩
  | served _ induction =>
      rcases induction fun entry member => served entry (List.mem_cons_of_mem _ member) with
        ⟨same, made, settled⟩
      exact ⟨same, congrArg _ made, settled⟩
  | stopped => cases served _ List.mem_cons_self
  | booked _ induction => exact induction served

omit carried in
theorem of_served_append {first : List PlanStep} {calls : List TracedCall}
    (carried : Carried (first ++ calls.map .call) ended before log after)
    (accepts : PlanStep.accepts first = true) (served : ∀ entry ∈ log, entry.served = true) :
    ended = true ∧ log = (PlanStep.calls first ++ calls).map TracedCall.served ∧
      after = (PlanStep.updates first).foldl (fun books update => update books) before := by
  rcases carried.of_served served with ⟨same, made, settled⟩
  rw [PlanStep.accepts_append, accepts, PlanStep.accepts_map_call] at same
  rw [PlanStep.calls_append, if_pos accepts, PlanStep.calls_map_call] at made
  rw [PlanStep.updates_append, PlanStep.updates_map_call, ite_self, List.append_nil] at settled
  exact ⟨same, made, settled⟩

end Carried

/-! ## Operations that carry out a plan -/

namespace Store

variable {δ α β : Type} {plan rest : List PlanStep} {store middle : Store (Logged δ)}
  {action : StoreM (Logged δ) α}

/-- Run on this store, the operation carries out the plan. It makes no other calls, and the
settings stay. -/
def CarriesOut (plan : List PlanStep) (action : StoreM (Logged δ) α)
    (store : Store (Logged δ)) : Prop :=
  (finalState (action store)).config = store.config ∧
    ∃ log, (finalState (action store)).device.log = store.device.log ++ log ∧
      Carried plan (succeeds (action store)) store.books log (finalState (action store)).books

theorem CarriesOut.bind {next : α → StoreM (Logged δ) β} (first : CarriesOut plan action store)
    (second : ∀ value middle, action store = .ok value middle →
      CarriesOut rest (next value) middle) :
    CarriesOut (plan ++ rest) (action >>= next) store := by
  rcases first with ⟨sameConfig, log, logged, carried⟩
  cases ran : action store with
  | ok value middle =>
      rw [ran] at sameConfig logged carried
      rcases second value middle ran with ⟨restConfig, further, furtherLogged, ending⟩
      rw [CarriesOut, bind_of_ok ran]
      refine ⟨restConfig.trans sameConfig, log ++ further, ?_, carried.append ending⟩
      rw [furtherLogged, ← List.append_assoc]
      exact congrArg (· ++ further) logged
  | error failure after =>
      rw [ran] at sameConfig logged carried
      rw [CarriesOut, bind_of_error ran]
      exact ⟨sameConfig, log, logged, carried.append_of_stopped⟩

theorem CarriesOut.config_of_ok (carries : CarriesOut plan action store) {value : α}
    (ran : action store = .ok value middle) : middle.config = store.config := by
  have same := carries.1
  rwa [ran] at same

/-- A step that only looks is not in the plan. -/
theorem CarriesOut.of_ok {next : α → StoreM (Logged δ) β} {value : α}
    (carries : CarriesOut plan (next value) store) (ran : action store = .ok value store) :
    CarriesOut plan (action >>= next) store := by
  rw [CarriesOut, bind_of_ok ran]
  exact carries

/-! ## Single steps -/

theorem carriesOut_pure (value : α) : CarriesOut [] (pure value) store :=
  ⟨rfl, [], (List.append_nil _).symm, .done⟩

theorem carriesOut_throw (failure : StoreError) :
    CarriesOut (.refuse :: plan) (throw failure : StoreM (Logged δ) α) store :=
  ⟨rfl, [], (List.append_nil _).symm, .refused⟩

theorem carriesOut_lift (call : TracedCall) (action : DeviceM δ α) :
    CarriesOut [.call call] (onDevice (Logged.lift call action)) store := by
  rcases store with ⟨⟨device, log⟩, index, config, stats, isOpen⟩
  rw [CarriesOut, onDevice, Logged.lift]
  cases action device with
  | ok value after => exact ⟨rfl, [call.served], rfl, .served .done⟩
  | error failure after => exact ⟨rfl, [call.refused], rfl, .stopped⟩

theorem carriesOut_count (update : Stats → Stats) :
    CarriesOut [.count update] (count update) store :=
  ⟨rfl, [], (List.append_nil _).symm, .booked .done⟩

theorem carriesOut_reindex (update : Index → Index) :
    CarriesOut [.reindex update] (reindex update) store :=
  ⟨rfl, [], (List.append_nil _).symm, .booked .done⟩

/-- A result that is only wrapped up is planned as the result itself. -/
theorem CarriesOut.wrapped (carries : CarriesOut plan action store) (wrap : α → β) :
    CarriesOut plan (action >>= fun value => pure (wrap value)) store := by
  rw [← List.append_nil plan]
  exact carries.bind fun value middle _ => carriesOut_pure (wrap value)

end Store

end PackedRecords
