import PackedRecords.Proofs.Simulation
import PackedRecords.Store.Basic

/-! # Counters of a store

What an operation adds to a counter if it succeeds. An operation that fails adds
nothing, unless the device fails: then the counting may already be done.
-/

namespace PackedRecords

/-- A failure of the device that the store is on. -/
def StoreError.OfDevice (failure : StoreError) : Prop :=
  ∃ reason, failure = .device reason

namespace Store

variable {δ α β : Type}

/-- Success adds to the counter, and failure does not, unless the device fails. -/
def Counts (counter : Stats → Nat) (added : Nat) (action : StoreM δ α) : Prop :=
  ∀ store, match action store with
    | .ok _ after => counter after.stats = counter store.stats + added
    | .error failure after =>
        failure.OfDevice ∨ counter after.stats = counter store.stats

/-- A computation that leaves the counters alone and fails only with its device. -/
def Uncounted (action : StoreM δ α) : Prop :=
  ∀ store, match action store with
    | .ok _ after => after.stats = store.stats
    | .error failure _ => failure.OfDevice

variable {counter : Stats → Nat} {added : Nat} {action : StoreM δ α}

/-! ## Composition -/

theorem counts_pure (value : α) : Counts counter 0 (pure value : StoreM δ α) :=
  fun _ => rfl

theorem counts_throw (failure : StoreError) :
    Counts counter added (throw failure : StoreM δ α) :=
  fun _ => .inr rfl

/-- What stands behind a failure is never reached. -/
theorem counts_throw_bind (failure : StoreError) (next : α → StoreM δ β) :
    Counts counter added (throw failure >>= next) :=
  counts_throw failure

theorem Counts.bind {next : α → StoreM δ β} (first : Counts counter 0 action)
    (second : ∀ value, Counts counter added (next value)) :
    Counts counter added (action >>= next) := by
  intro store
  have counted := first store
  cases ran : action store with
  | error failure after =>
      rw [ran] at counted
      rw [bind_of_error ran]
      exact counted
  | ok value middle =>
      rw [ran] at counted
      rw [bind_of_ok ran]
      have rest := second value middle
      have same : counter middle.stats = counter store.stats := counted
      rw [← same]
      exact rest

/-- What is counted may be followed by something that only the device can stop. -/
theorem Counts.andThen {next : α → StoreM δ β} (first : Counts counter added action)
    (second : ∀ value, Uncounted (next value)) : Counts counter added (action >>= next) := by
  intro store
  have counted := first store
  cases ran : action store with
  | error failure after =>
      rw [ran] at counted
      rw [bind_of_error ran]
      exact counted
  | ok value middle =>
      rw [ran] at counted
      rw [bind_of_ok ran]
      have rest := second value middle
      cases finished : next value middle with
      | ok result after =>
          rw [finished] at rest
          exact (congrArg counter rest).trans counted
      | error failure after =>
          rw [finished] at rest
          exact .inl rest

/-! ## Single steps -/

theorem uncounted_onDevice (call : DeviceM δ α) : Uncounted (onDevice call) := by
  intro ⟨device, index, config, stats, isOpen⟩
  rw [onDevice]
  cases call device with
  | ok value after => rfl
  | error failure after => exact ⟨failure, rfl⟩

theorem Uncounted.counts (uncounted : Uncounted action) : Counts counter 0 action := by
  intro store
  have left := uncounted store
  cases ran : action store with
  | ok value after =>
      rw [ran] at left
      exact congrArg counter left
  | error failure after =>
      rw [ran] at left
      exact .inl left

theorem counts_onDevice (call : DeviceM δ α) : Counts counter 0 (onDevice call) :=
  (uncounted_onDevice call).counts

theorem counts_view (read : Store δ → α) : Counts counter 0 (view read) :=
  fun _ => rfl

theorem counts_reindex (update : Index → Index) :
    Counts counter 0 (reindex update : StoreM δ Unit) :=
  fun _ => rfl

theorem counts_count {update : Stats → Stats}
    (adds : ∀ stats, counter (update stats) = counter stats + added) :
    Counts counter added (count update : StoreM δ Unit) :=
  fun store => adds store.stats

theorem counts_requireOpen : Counts counter 0 (requireOpen : StoreM δ Unit) := by
  intro store
  rw [requireOpen]
  cases store.isOpen with
  | true => rfl
  | false => exact .inr rfl

theorem counts_expectLength (offset : Nat) (length : Except Corruption Nat) :
    Counts counter 0 (expectLength offset length : StoreM δ Nat) := by
  cases length with
  | ok value => exact counts_pure value
  | error fault => exact counts_throw _

/-! ## Payloads written -/

variable [ByteDevice δ]

theorem counts_readLength (offset : Nat) :
    Counts counter 0 (readLength offset : StoreM δ UInt32) :=
  (counts_onDevice _).bind fun _ => counts_pure _

theorem counts_readValidLength (offset : Nat) :
    Counts counter 0 (readValidLength offset : StoreM δ Nat) :=
  (counts_readLength offset).bind fun _ => (counts_view _).bind fun _ =>
    counts_expectLength offset _

theorem counts_shiftAfter (source : Nat) (delta : Int) :
    Counts counter 0 (shiftAfter source delta : StoreM δ Nat) :=
  (counts_view _).bind fun _ => (counts_onDevice _).bind fun _ =>
    (counts_reindex _).bind fun _ => counts_pure _

theorem uncounted_syncIfConfigured : Uncounted (syncIfConfigured : StoreM δ Unit) := by
  intro store
  rw [syncIfConfigured, bind_of_ok (rfl : view _ store = _)]
  cases store.config.syncOnWrite with
  | true => exact uncounted_onDevice ByteDevice.sync store
  | false => rfl

theorem counts_append (key : EntityId) (payload : ByteArray) :
    Counts Stats.writes 1 (append key payload : StoreM δ Unit) :=
  (counts_onDevice _).bind fun _ => (counts_onDevice _).bind fun _ =>
    (counts_onDevice _).bind fun _ => (counts_reindex _).bind fun _ =>
      counts_count fun stats => by
        simp only [Stats.writes, Stats.countAppend]
        omega

theorem counts_update (offset : Nat) (payload : ByteArray) :
    Counts Stats.writes 1 (update offset payload : StoreM δ Unit) := by
  refine (counts_readValidLength offset).bind fun length => ?_
  by_cases same : length = payload.size
  · simp only [if_pos same]
    exact (counts_onDevice _).bind fun _ => counts_count fun stats => by
      simp only [Stats.writes, Stats.countInPlaceUpdate]
      omega
  · simp only [if_neg same]
    exact (counts_shiftAfter _ _).bind fun _ => (counts_count fun _ => rfl).bind fun _ =>
      (counts_onDevice _).bind fun _ => (counts_onDevice _).bind fun _ =>
        counts_count fun stats => by
          simp only [Stats.writes, Stats.countShiftedUpdate]
          omega

/-- A payload that is stored, in whichever way, is counted once. -/
theorem counts_put (key : EntityId) (payload : ByteArray) :
    Counts Stats.writes 1 (put key payload : StoreM δ Unit) := by
  refine (counts_view _).bind fun limit => ?_
  by_cases large : limit < payload.size
  · simp only [if_pos large]
    exact counts_throw_bind _ _
  · simp only [if_neg large]
    refine counts_requireOpen.bind fun _ => (counts_view _).bind fun found => ?_
    cases found with
    | none => exact (counts_append key payload).andThen fun _ => uncounted_syncIfConfigured
    | some offset =>
        exact (counts_update offset payload).andThen fun _ => uncounted_syncIfConfigured

theorem counts_get (key : EntityId) :
    Counts Stats.writes 0 (get key : StoreM δ (Option ByteArray)) := by
  refine (counts_count fun _ => rfl).bind fun _ => counts_requireOpen.bind fun _ =>
    (counts_view _).bind fun found => ?_
  cases found with
  | none => exact counts_pure none
  | some offset =>
      exact (counts_readLength offset).bind fun _ => (counts_onDevice _).bind fun _ =>
        (counts_count fun _ => rfl).bind fun _ => counts_pure _

end Store

end PackedRecords
