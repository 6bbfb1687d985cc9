import PackedRecords.Proofs.Store.Closed
import PackedRecords.Proofs.Store.History
import PackedRecords.Proofs.Store.Served

/-! # The counters account for the history

While a ledger describes the store, every operation adds to the counters what can be
told of it from the store before and the answer. A closed store only goes on counting
look-ups. So after any run in which the device has refused nothing, the counters are the
tallies of its history.
-/

namespace PackedRecords

namespace StoreTurn

/-! ## Turns by what they did -/

section Only

variable {δ : Type} {turn : StoreTurn δ}

theorem returned?_of_not_looksUp (other : turn.looksUp = false) : turn.returned? = none := by
  rcases turn with ⟨operation, before, answer, after⟩
  cases operation with
  | get key => cases other
  | _ => rfl

theorem unchanged_of_looksUp (looked : turn.looksUp = true) :
    turn.stored? = none ∧ turn.removed? = none := by
  rcases turn with ⟨operation, before, answer, after⟩
  cases operation with
  | get key => exact ⟨rfl, rfl⟩
  | _ => cases looked

theorem only_stored {entry : EntityId × ByteArray} (stored : turn.stored? = some entry) :
    turn.looksUp = false ∧ turn.removed? = none := by
  rcases turn with ⟨operation, before, answer, after⟩
  cases operation with
  | put key payload => exact ⟨rfl, rfl⟩
  | _ => cases stored

theorem only_removed {key : EntityId} (removed : turn.removed? = some key) :
    turn.looksUp = false ∧ turn.stored? = none := by
  rcases turn with ⟨operation, before, answer, after⟩
  cases operation with
  | remove key => exact ⟨rfl, rfl⟩
  | _ => cases removed

end Only

variable {δ : Type} [ByteDevice δ] [FaithfulDevice δ] {turn : StoreTurn δ}

/-! ## Kinds of puts -/

/-- The three kinds of a put, of which a turn is one if it stored something and else none. -/
def HasKinds (turn : StoreTurn δ) (appends replaces resizes : Bool) : Prop :=
  turn.appends = appends ∧ turn.replacesInPlace = replaces ∧ turn.resizes = resizes

theorem hasKinds_of_not_stored (notStored : turn.stored? = none) :
    turn.HasKinds false false false := by
  simp [HasKinds, appends, replacesInPlace, resizes, meets, notStored]

section Stored

variable {key : EntityId} {payload : ByteArray} (stored : turn.stored? = some (key, payload))
include stored

theorem hasKinds_of_missing (met : turn.before.lookUp key = .ok none) :
    turn.HasKinds true false false := by
  simp [HasKinds, appends, replacesInPlace, resizes, meets, stored, met]

variable {old : ByteArray} (met : turn.before.lookUp key = .ok (some old))
include met

theorem hasKinds_of_same (same : old.size = payload.size) : turn.HasKinds false true false := by
  simp [HasKinds, appends, replacesInPlace, resizes, meets, stored, met, same]

theorem hasKinds_of_different (different : old.size ≠ payload.size) :
    turn.HasKinds false false true := by
  simp [HasKinds, appends, replacesInPlace, resizes, meets, stored, met, different]

end Stored

/-! ## Turns by what they counted -/

theorem counted_of_quiet (quiet : turn.IsQuiet)
    (same : turn.after.stats = turn.before.stats) : turn.Counted := by
  have returned := returned?_of_not_looksUp quiet.1
  rcases quiet with ⟨other, notStored, notRemoved⟩
  rcases hasKinds_of_not_stored notStored with ⟨appended, replaced, resized⟩
  constructor <;>
    simp [same, other, returned, notStored, notRemoved, appended, replaced, resized, tail]

theorem counted_of_looksUp (looked : turn.looksUp = true)
    (stats : turn.after.stats = turn.returned?.elim turn.before.stats.countLookup
      fun payload => turn.before.stats.countLookup.countRead payload.size) :
    turn.Counted := by
  rcases unchanged_of_looksUp looked with ⟨notStored, notRemoved⟩
  rcases hasKinds_of_not_stored notStored with ⟨appended, replaced, resized⟩
  cases returned : turn.returned? with
  | none =>
      rw [returned] at stats
      constructor <;>
        simp [stats, Stats.countLookup, looked, returned, notStored, notRemoved, appended,
          replaced, resized, tail, IsQuiet]
  | some payload =>
      rw [returned] at stats
      constructor <;>
        simp [stats, Stats.countLookup, Stats.countRead, looked, returned, notStored, notRemoved,
          appended, replaced, resized, tail, IsQuiet]

section Stored

variable {key : EntityId} {payload : ByteArray} (stored : turn.stored? = some (key, payload))
include stored

theorem counted_of_append (met : turn.before.lookUp key = .ok none) {written : Nat}
    (stats : turn.after.stats = turn.before.stats.countAppend written) : turn.Counted := by
  rcases only_stored stored with ⟨other, notRemoved⟩
  rcases hasKinds_of_missing stored met with ⟨appended, replaced, resized⟩
  have returned := returned?_of_not_looksUp other
  constructor <;>
    simp [stats, Stats.countAppend, other, returned, stored, notRemoved, appended, replaced,
      resized, tail, IsQuiet]

variable {old : ByteArray} (met : turn.before.lookUp key = .ok (some old))
include met

theorem counted_of_update_same (same : old.size = payload.size) {written : Nat}
    (stats : turn.after.stats = turn.before.stats.countInPlaceUpdate written) :
    turn.Counted := by
  rcases only_stored stored with ⟨other, notRemoved⟩
  rcases hasKinds_of_same stored met same with ⟨appended, replaced, resized⟩
  have returned := returned?_of_not_looksUp other
  constructor <;>
    simp [stats, Stats.countInPlaceUpdate, other, returned, stored, notRemoved, appended, replaced,
      resized, tail, IsQuiet]

theorem counted_of_update_other (different : old.size ≠ payload.size) {moved written : Nat}
    (behind : turn.before.bytesBehind key = moved)
    (stats : turn.after.stats =
      (turn.before.stats.countShift moved).countShiftedUpdate written) : turn.Counted := by
  rcases only_stored stored with ⟨other, notRemoved⟩
  rcases hasKinds_of_different stored met different with ⟨appended, replaced, resized⟩
  have returned := returned?_of_not_looksUp other
  constructor <;>
    simp [stats, Stats.countShift, Stats.countShiftedUpdate, other, returned, stored, notRemoved,
      appended, replaced, resized, behind, tail, IsQuiet]

end Stored

theorem counted_of_removal {key : EntityId} (removed : turn.removed? = some key) {moved : Nat}
    (behind : turn.before.bytesBehind key = moved)
    (stats : turn.after.stats = (turn.before.stats.countShift moved).countRemove) :
    turn.Counted := by
  rcases only_removed removed with ⟨other, notStored⟩
  rcases hasKinds_of_not_stored notStored with ⟨appended, replaced, resized⟩
  have returned := returned?_of_not_looksUp other
  constructor <;>
    simp [stats, Stats.countShift, Stats.countRemove, other, returned, notStored, removed, behind,
      appended, replaced, resized, tail, IsQuiet]

theorem counted_of_outcome {operation : StoreOperation} {store after : Store δ}
    {answer : Except StoreError StoreAnswer} (ran : operation.outcome store = (answer, after))
    (counted : StoreTurn.Counted ⟨operation, store, answer, after⟩) :
    (operation.turn store).Counted := by
  rw [StoreOperation.turn, ran]
  exact counted

theorem counted_of_run {operation : StoreOperation} {store after : Store δ}
    {answer : StoreAnswer} (ran : operation.run store = .ok answer after)
    (counted : StoreTurn.Counted ⟨operation, store, .ok answer, after⟩) :
    (operation.turn store).Counted := by
  refine counted_of_outcome ?_ counted
  rw [StoreOperation.outcome, ran]

/-- A refusal that comes first leaves everything as it was. -/
theorem counted_of_refusal {operation : StoreOperation} {store : Store δ}
    {failure : StoreError} (other : ∀ key, operation ≠ .get key)
    (ran : operation.run store = .error failure store) : (operation.turn store).Counted := by
  have outcome : operation.outcome store = (.error failure, store) := by
    rw [StoreOperation.outcome, ran]
  refine counted_of_outcome outcome (counted_of_quiet ?_ rfl)
  cases operation with
  | get key => exact absurd rfl (other key)
  | _ => exact ⟨rfl, rfl, rfl⟩

/-! ## Closed stores -/

/-- A closed store counts nothing but look-ups. -/
theorem counted_of_closed (operation : StoreOperation) {store : Store δ}
    (closed : store.isOpen = false) : (operation.turn store).Counted := by
  rcases store with ⟨device, index, config, stats, isOpen⟩
  cases closed
  cases operation with
  | get key => exact counted_of_looksUp rfl rfl
  | put key payload =>
      by_cases large : config.payloadLimit < payload.size
      · exact counted_of_refusal (fun _ => StoreOperation.noConfusion)
          (bind_of_error (Store.put_run_large large device))
      · exact counted_of_refusal (fun _ => StoreOperation.noConfusion)
          (bind_of_error (Store.put_run_closed (Nat.le_of_not_lt large) device))
  | _ => exact counted_of_quiet ⟨rfl, rfl, rfl⟩ rfl

/-! ## Stores on faithful devices -/

/-- The turn in memory that a turn on a faithful device stands for. -/
def inMemory (turn : StoreTurn δ) : StoreTurn Memory :=
  ⟨turn.operation, turn.before.inMemory, turn.answer, turn.after.inMemory⟩

theorem counted_inMemory (counted : turn.inMemory.Counted) : turn.Counted :=
  ⟨counted.lookups, counted.reads, counted.bytesRead, counted.appends, counted.inPlaceUpdates,
    counted.shiftedUpdates, counted.stores, counted.removes, counted.bytesShifted, counted.quiet⟩

theorem inMemory_turn {operation : StoreOperation} {store : Store δ}
    (sound : FaithfulDevice.Sound store.device)
    (served : ∀ failure, (operation.outcome store).1 = .error failure → ¬failure.IsRefusal) :
    (operation.turn store).inMemory = operation.turn store.inMemory := by
  rw [StoreOperation.turn, StoreOperation.turn,
    (StoreOperation.outcome_inMemory sound served).2]
  rfl

end StoreTurn

/-! ## Described stores -/

namespace Ledger.Describes

variable {ledger : Ledger} {bytes : ByteArray} {index : Index} {config : Config}
  {stats : Stats}
  (describes : ledger.Describes (⟨⟨bytes⟩, index, config, stats, true⟩ : Store Memory))
include describes

/-- What follows the last record of a key in use. -/
theorem bytesBehind_split {before after : List Record} {record : Record}
    (split : ledger.records = before ++ record :: after) (inUse : record.key ∈ ledger.live)
    (last : record.key ∉ keysOf after) :
    Store.bytesBehind (⟨⟨bytes⟩, index, config, stats, true⟩ : Store Memory) record.key =
      (image after).size := by
  have held : bytes = image ledger.records := describes.contents
  have led := describes.index record.key
  have found := describes.lookUp_eq record.key
  rw [offset?, if_pos inUse, split, lastOffset?_split rfl last, Nat.zero_add] at led
  rw [payload?, if_pos inUse, split, lastPayload?_split rfl last] at found
  have size : bytes.size =
      (image before).size + (headerSize + record.payload.size + (image after).size) := by
    rw [held, split, size_image_append, size_image_cons, Record.size_eq]
  rw [Store.bytesBehind, led, found]
  change (bytes.size : Int) - _ = _
  rw [size]
  omega

theorem counted_put (key : EntityId) (payload : ByteArray) :
    ((StoreOperation.put key payload).turn
      (⟨⟨bytes⟩, index, config, stats, true⟩ : Store Memory)).Counted := by
  have found := describes.lookUp_eq key
  by_cases large : config.payloadLimit < payload.size
  · exact StoreTurn.counted_of_refusal (fun _ => StoreOperation.noConfusion)
      (bind_of_error (Store.put_run_large large (⟨bytes⟩ : Memory)))
  · have short := Nat.le_of_not_lt large
    by_cases inUse : key ∈ ledger.live
    · rcases describes.exists_split inUse with
        ⟨before, record, after, split, rfl, last, led, held, recordShort⟩
      have behind := describes.bytesBehind_split split inUse last
      rw [payload?, if_pos inUse, split, lastPayload?_split rfl last] at found
      subst held
      by_cases same : record.payload.size = payload.size
      · exact StoreTurn.counted_of_run
          (bind_of_ok (Store.put_run_update short led
            (Store.update_run_same (image before) (image after) recordShort same)))
          (StoreTurn.counted_of_update_same rfl found same rfl)
      · exact StoreTurn.counted_of_run
          (bind_of_ok (Store.put_run_update short led
            (Store.update_run_other (image before) (image after) recordShort same)))
          (StoreTurn.counted_of_update_other rfl found same behind rfl)
    · have missing := describes.getElem?_index_of_not_mem inUse
      rw [payload?, if_neg inUse] at found
      exact StoreTurn.counted_of_run
        (bind_of_ok (Store.put_run_append short bytes missing))
        (StoreTurn.counted_of_append rfl found rfl)

theorem counted_get (key : EntityId) :
    ((StoreOperation.get key).turn
      (⟨⟨bytes⟩, index, config, stats, true⟩ : Store Memory)).Counted := by
  by_cases inUse : key ∈ ledger.live
  · rcases describes.exists_split inUse with
      ⟨before, record, after, _, _, _, led, held, short⟩
    subst held
    exact StoreTurn.counted_of_run
      (bind_of_ok (Store.get_run (image before) (image after)
        (Nat.le_trans short config.payloadLimit_le) led))
      (StoreTurn.counted_of_looksUp rfl rfl)
  · have missing := describes.getElem?_index_of_not_mem inUse
    exact StoreTurn.counted_of_run (bind_of_ok (Store.get_run_none bytes missing))
      (StoreTurn.counted_of_looksUp rfl rfl)

theorem counted_remove (key : EntityId) :
    ((StoreOperation.remove key).turn
      (⟨⟨bytes⟩, index, config, stats, true⟩ : Store Memory)).Counted := by
  by_cases inUse : key ∈ ledger.live
  · rcases describes.exists_split inUse with
      ⟨before, record, after, split, rfl, last, led, held, short⟩
    have behind := describes.bytesBehind_split split inUse last
    subst held
    exact StoreTurn.counted_of_run
      (bind_of_ok (Store.remove_run (image before) (image after) short led))
      (StoreTurn.counted_of_removal rfl behind rfl)
  · have missing := describes.getElem?_index_of_not_mem inUse
    exact StoreTurn.counted_of_run (bind_of_ok (Store.remove_run_none bytes missing))
      (StoreTurn.counted_of_quiet ⟨rfl, rfl, rfl⟩ rfl)

theorem counted (operation : StoreOperation) :
    (operation.turn (⟨⟨bytes⟩, index, config, stats, true⟩ : Store Memory)).Counted := by
  cases operation with
  | put key payload => exact describes.counted_put key payload
  | get key => exact describes.counted_get key
  | remove key => exact describes.counted_remove key
  | scan =>
      exact StoreTurn.counted_of_run (bind_of_ok describes.scan_run)
        (StoreTurn.counted_of_quiet ⟨rfl, rfl, rfl⟩ rfl)
  | _ => exact StoreTurn.counted_of_quiet ⟨rfl, rfl, rfl⟩ rfl

end Ledger.Describes

/-! ## Runs -/

namespace Store

variable {δ : Type} [ByteDevice δ] [FaithfulDevice δ] {store : Store δ}

/-- As long as the store is open, a ledger describes it. -/
structure Kept (store : Store δ) : Prop where
  sound : FaithfulDevice.Sound store.device
  described : store.isOpen = true → ∃ ledger : Ledger, ledger.Describes store

theorem Kept.counted (kept : store.Kept) {operation : StoreOperation}
    (served : ∀ failure, (operation.outcome store).1 = .error failure → ¬failure.IsRefusal) :
    (operation.turn store).Counted := by
  cases opened : store.isOpen with
  | false => exact StoreTurn.counted_of_closed operation opened
  | true =>
      rcases kept.described opened with ⟨ledger, describes⟩
      apply StoreTurn.counted_inMemory
      rw [StoreTurn.inMemory_turn kept.sound served]
      have memoryDescribes := Ledger.describes_inMemory.mpr describes
      rcases store with ⟨device, index, config, stats, isOpen⟩
      cases opened
      exact memoryDescribes.counted operation

theorem Kept.outcome (kept : store.Kept) {operation : StoreOperation}
    (served : ∀ failure, (operation.outcome store).1 = .error failure → ¬failure.IsRefusal) :
    (operation.outcome store).2.Kept := by
  refine ⟨(StoreOperation.outcome_inMemory kept.sound served).1, ?_⟩
  intro afterOpen
  cases opened : store.isOpen with
  | false =>
      rcases operation.outcome_of_closed opened with ⟨stats, outcome⟩
      rw [outcome] at afterOpen
      exact absurd (afterOpen.symm.trans opened) Bool.noConfusion
  | true =>
      by_cases close : operation = .close
      · rw [close, StoreOperation.isOpen_close] at afterOpen
        cases afterOpen
      · rcases kept.described opened with ⟨ledger, describes⟩
        exact ⟨_, (describes.outcome_of_served kept.sound operation close served).2.1⟩

/-- Every turn of a run is counted, those after a close included. -/
theorem Kept.counted_history (kept : store.Kept) {operations : List StoreOperation}
    (served : StoreOperation.Spared StoreError.IsRefusal operations store) :
    ∀ turn ∈ StoreOperation.history operations store, turn.Counted := by
  induction operations generalizing store with
  | nil => exact List.forall_mem_nil _
  | cons operation rest induction =>
      rcases served.cons with ⟨servedFirst, servedRest⟩
      exact List.forall_mem_cons.mpr
        ⟨kept.counted servedFirst, induction (kept.outcome servedFirst) servedRest⟩

/-- A store just opened has counted nothing yet. -/
theorem kept_of_openDevice {config : Config} {device : δ} (sound : FaithfulDevice.Sound device)
    (accepted : openDevice config device = .ok store) : store.Kept ∧ store.stats = {} := by
  rcases exists_records_of_openDevice sound accepted with ⟨records, within, _, same⟩
  have describes := Ledger.describes_inMemory.mp (same.symm ▸ Ledger.describes_opened within)
  exact ⟨⟨(openDevice_ok sound accepted).1, fun _ => ⟨_, describes⟩⟩, congrArg Store.stats same⟩

/-- Whatever is done to a store after it was opened, closing it included: as long as the
device refuses nothing, every operation is counted for what it did, and the counters are
the tallies of the whole history. -/
theorem stats_tally_history {config : Config} {device : δ} {operations : List StoreOperation}
    (sound : FaithfulDevice.Sound device) (accepted : openDevice config device = .ok store)
    (served : ∀ failure, .error failure ∈ (StoreOperation.runAll operations store).1 →
      ¬failure.IsRefusal) :
    (StoreOperation.history operations store).map StoreTurn.answer =
        (StoreOperation.runAll operations store).1 ∧
      (∀ turn ∈ StoreOperation.history operations store, turn.Counted) ∧
      (StoreOperation.runAll operations store).2.stats.Tallies
        (StoreOperation.history operations store) := by
  rcases kept_of_openDevice sound accepted with ⟨kept, fresh⟩
  have counted := kept.counted_history served
  exact ⟨StoreOperation.map_answer_history operations store, counted,
    Stats.tallies_of_counted fresh counted⟩

/-- A record is added, another one looked up, resized and removed, and a key looked up
again after the store is closed. -/
theorem stats_tally_history_closed :
    let store := opened { maxPayloadSize := 3 } [⟨.ofPool 1, ⟨#[7, 8]⟩⟩]
    let operations : List StoreOperation :=
      [.put (.ofPool 2) ⟨#[1]⟩, .get (.ofPool 1), .put (.ofPool 1) ⟨#[3, 4, 5]⟩,
        .remove (.ofPool 1), .close, .get (.ofPool 2)]
    openDevice { maxPayloadSize := 3 } (⟨image [⟨.ofPool 1, ⟨#[7, 8]⟩⟩]⟩ : Memory) =
        .ok store ∧
      (StoreOperation.runAll operations store).2.stats =
        { lookups := 2, reads := 1, bytesRead := 2, appends := 1, shiftedUpdates := 1,
          removes := 1, bytesShifted := 42, bytesWritten := 44 } ∧
      (StoreOperation.runAll operations store).2.stats.Tallies
        (StoreOperation.history operations store) := by
  intro store operations
  have ran : (StoreOperation.runAll operations store).1 =
        [.ok .done, .ok (.payload (some ⟨#[7, 8]⟩)), .ok .done, .ok (.flag true), .ok .done,
          .error .closed] ∧
      (StoreOperation.runAll operations store).2.stats =
        { lookups := 2, reads := 1, bytesRead := 2, appends := 1, shiftedUpdates := 1,
          removes := 1, bytesShifted := 42, bytesWritten := 44 } := by
    cbv
  rcases ran with ⟨answers, stats⟩
  have accepted : openDevice { maxPayloadSize := 3 }
      (⟨image [⟨.ofPool 1, ⟨#[7, 8]⟩⟩]⟩ : Memory) = .ok store :=
    openDevice_image (by decide)
  have served : ∀ failure, .error failure ∈ (StoreOperation.runAll operations store).1 →
      ¬failure.IsRefusal := by
    intro failure member
    rw [answers] at member
    simp at member
    rw [member]
    exact id
  have counted := stats_tally_history (FaithfulDevice.sound_memory _) accepted served
  exact ⟨accepted, stats, counted.2.2⟩

end Store

end PackedRecords
