import PackedRecords.Proofs.Store.Reading

/-! # Failures that come from a value

A value that cannot be encoded, or whose payload is over the limit, is refused before the
store has done anything. Everything that a put does once the limit has been checked fails
for other reasons only.
-/

namespace PackedRecords

/-- The failure lies with a value or its payload and not with the store. -/
def StoreError.IsOfValue : StoreError → Prop
  | payloadTooLarge .. | codec _ => True
  | device _ | io _ | corruptRecord .. | locked | closed => False

namespace Store

variable {δ α : Type}

/-- If the computation fails, it is not for the sake of a value. -/
abbrev AcceptsValues (action : StoreM δ α) : Prop :=
  Confined (fun _ => True) (fun failure => ¬failure.IsOfValue) action

theorem acceptsValues_onDevice (call : DeviceM δ α) : AcceptsValues (onDevice call) := by
  intro store _
  rw [ConfinedFrom, onDevice]
  cases call store.device with
  | ok value after => trivial
  | error failure after => exact ⟨trivial, id⟩

theorem acceptsValues_view (read : Store δ → α) : AcceptsValues (view read) :=
  fun _ _ => trivial

theorem acceptsValues_count (update : Stats → Stats) :
    AcceptsValues (count update : StoreM δ Unit) :=
  fun _ _ => trivial

theorem acceptsValues_reindex (update : Index → Index) :
    AcceptsValues (reindex update : StoreM δ Unit) :=
  fun _ _ => trivial

theorem acceptsValues_expectLength (offset : Nat) (length : Except Corruption Nat) :
    AcceptsValues (expectLength offset length : StoreM δ Nat) := by
  cases length with
  | ok length => exact confined_pure length
  | error fault => exact confined_throw id

variable [ByteDevice δ]

theorem acceptsValues_readLength (offset : Nat) :
    AcceptsValues (readLength offset : StoreM δ UInt32) :=
  (acceptsValues_onDevice _).bind fun _ => confined_pure _

theorem acceptsValues_readValidLength (offset : Nat) :
    AcceptsValues (readValidLength offset : StoreM δ Nat) :=
  (acceptsValues_readLength offset).bind fun _ => (acceptsValues_view _).bind fun _ =>
    acceptsValues_expectLength _ _

theorem acceptsValues_shiftAfter (source : Nat) (delta : Int) :
    AcceptsValues (shiftAfter source delta : StoreM δ Nat) :=
  (acceptsValues_view _).bind fun _ => (acceptsValues_onDevice _).bind fun _ =>
    (acceptsValues_reindex _).bind fun _ => confined_pure _

theorem acceptsValues_syncIfConfigured : AcceptsValues (syncIfConfigured : StoreM δ Unit) := by
  apply (acceptsValues_view _).bind
  intro configured
  cases configured with
  | true => exact acceptsValues_onDevice _
  | false => exact confined_pure ()

theorem acceptsValues_append (key : EntityId) (payload : ByteArray) :
    AcceptsValues (append key payload : StoreM δ Unit) :=
  (acceptsValues_onDevice _).bind fun _ => (acceptsValues_onDevice _).bind fun _ =>
    (acceptsValues_onDevice _).bind fun _ => (acceptsValues_reindex _).bind fun _ =>
      acceptsValues_count _

theorem acceptsValues_update (offset : Nat) (payload : ByteArray) :
    AcceptsValues (update offset payload : StoreM δ Unit) := by
  apply (acceptsValues_readValidLength offset).bind
  intro length
  by_cases same : length = payload.size
  · simp only [if_pos same]
    exact (acceptsValues_onDevice _).bind fun _ => acceptsValues_count _
  · simp only [if_neg same]
    exact (acceptsValues_shiftAfter _ _).bind fun _ => (acceptsValues_count _).bind fun _ =>
      (acceptsValues_onDevice _).bind fun _ => (acceptsValues_onDevice _).bind fun _ =>
        acceptsValues_count _

/-- A put fails for the sake of its payload only if that is over the limit, and then it
has done nothing. -/
theorem put_error_of_value {key : EntityId} {payload : ByteArray} {failure : StoreError}
    {store after : Store δ} (failed : put key payload store = .error failure after)
    (ofValue : failure.IsOfValue) :
    store.config.payloadLimit < payload.size ∧
      failure = .payloadTooLarge payload.size store.config.payloadLimit ∧ after = store := by
  by_cases large : store.config.payloadLimit < payload.size
  · rw [put_run_large large store.device] at failed
    cases failed
    exact ⟨large, rfl, rfl⟩
  · exfalso
    have short : payload.size ≤ store.config.payloadLimit := Nat.le_of_not_lt large
    rcases store with ⟨device, index, config, stats, isOpen⟩
    cases isOpen with
    | false =>
        rw [put, bind_of_ok (view_run _ _)] at failed
        simp only [if_neg large] at failed
        cases failed
        exact ofValue
    | true =>
        cases found : index[key]? with
        | none =>
            rw [put_eq_append short device found] at failed
            have accepts := (acceptsValues_append (δ := δ) key payload).bind fun _ =>
              acceptsValues_syncIfConfigured
            exact (accepts.error trivial failed).2 ofValue
        | some offset =>
            rw [put_eq_update short device found] at failed
            have accepts := (acceptsValues_update (δ := δ) offset payload).bind fun _ =>
              acceptsValues_syncIfConfigured
            exact (accepts.error trivial failed).2 ofValue

end Store

end PackedRecords
