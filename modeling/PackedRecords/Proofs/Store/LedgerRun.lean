import PackedRecords.Proofs.Store.Described

/-! # Stores work as their ledgers do

One operation on a described store answers what the ledger answers and leaves a store
that the changed ledger describes. By induction a whole run does so too, first in
memory and then on every faithful device that refuses no call.
-/

namespace PackedRecords

namespace Ledger

/-! ## One operation in memory -/

/-- The operation answers as the ledger does, and the ledger goes on describing. -/
def Answers (ledger : Ledger) (operation : StoreOperation) (store : Store Memory) : Prop :=
  ∃ after, operation.outcome store =
      ((ledger.apply store.config.payloadLimit operation).1, after) ∧
    (ledger.apply store.config.payloadLimit operation).2.Describes after ∧
    after.config = store.config

theorem answers_of_run {ledger next : Ledger} {operation : StoreOperation}
    {store after : Store Memory} {answer : StoreAnswer}
    (ran : operation.run store = .ok answer after)
    (applied : ledger.apply store.config.payloadLimit operation = (.ok answer, next))
    (describes : next.Describes after) (config : after.config = store.config) :
    ledger.Answers operation store := by
  refine ⟨after, ?_, ?_, config⟩
  · rw [StoreOperation.outcome, ran, applied]
  · rw [applied]
    exact describes

namespace Describes

variable {ledger : Ledger} {bytes : ByteArray} {index : Index} {config : Config}
  {stats : Stats}
  (describes : ledger.Describes (⟨⟨bytes⟩, index, config, stats, true⟩ : Store Memory))
include describes

theorem answers_put (key : EntityId) (payload : ByteArray) :
    ledger.Answers (.put key payload) ⟨⟨bytes⟩, index, config, stats, true⟩ := by
  by_cases large : config.payloadLimit < payload.size
  · have refused : Store.put key payload
        (⟨⟨bytes⟩, index, config, stats, true⟩ : Store Memory) =
          .error (.payloadTooLarge payload.size config.payloadLimit)
            ⟨⟨bytes⟩, index, config, stats, true⟩ := Store.put_run_large large (⟨bytes⟩ : Memory)
    refine ⟨⟨⟨bytes⟩, index, config, stats, true⟩, ?_, ?_, rfl⟩
    · rw [StoreOperation.outcome, StoreOperation.run, bind_of_error refused, apply,
        if_pos large]
    · rw [apply, if_pos large]
      exact describes
  · have short := Nat.le_of_not_lt large
    have applied : ledger.apply config.payloadLimit (.put key payload) =
        (.ok .done, ledger.put key payload) := by rw [apply, if_neg large]
    by_cases inUse : key ∈ ledger.live
    · rcases describes.exists_split inUse with
        ⟨before, record, after, split, rfl, last, found, held, recordShort⟩
      subst held
      by_cases same : record.payload.size = payload.size
      · refine answers_of_run (bind_of_ok (Store.put_run_update short found
          (Store.update_run_same (image before) (image after) recordShort same)))
          applied ?_ rfl
        refine describes.replaced split inUse last short ?_ _
        intro other
        cases index[other]? with
        | none => rfl
        | some offset =>
            rw [Option.map_some, same, Int.sub_self, Int.add_zero, Int.toNat_natCast, ite_self]
      · refine answers_of_run (bind_of_ok (Store.put_run_update short found
          (Store.update_run_other (image before) (image after) recordShort same)))
          applied ?_ rfl
        refine describes.replaced split inUse last short ?_ _
        intro other
        rw [Index.getElem?_shiftFrom, Record.size_eq, Nat.add_assoc]
    · have missing := describes.getElem?_index_of_not_mem inUse
      exact answers_of_run (bind_of_ok (Store.put_run_append short bytes missing)) applied
        (describes.appended inUse short _) rfl

theorem answers_get (key : EntityId) :
    ledger.Answers (.get key) ⟨⟨bytes⟩, index, config, stats, true⟩ := by
  by_cases inUse : key ∈ ledger.live
  · rcases describes.exists_split inUse with
      ⟨before, record, after, split, same, last, found, held, short⟩
    have applied : ledger.apply config.payloadLimit (.get key) =
        (.ok (.payload (some record.payload)), ledger) := by
      rw [apply, payload?, if_pos inUse, split, lastPayload?_split same last]
    subst held
    exact answers_of_run (bind_of_ok (Store.get_run (image before) (image after)
      (Nat.le_trans short config.payloadLimit_le) found)) applied (describes.restat _) rfl
  · have missing := describes.getElem?_index_of_not_mem inUse
    have applied : ledger.apply config.payloadLimit (.get key) =
        (.ok (.payload none), ledger) := by
      rw [apply, payload?, if_neg inUse]
    exact answers_of_run (bind_of_ok (Store.get_run_none bytes missing)) applied
      (describes.restat _) rfl

theorem answers_remove (key : EntityId) :
    ledger.Answers (.remove key) ⟨⟨bytes⟩, index, config, stats, true⟩ := by
  by_cases inUse : key ∈ ledger.live
  · rcases describes.exists_split inUse with
      ⟨before, record, after, split, rfl, last, found, held, short⟩
    have applied : ledger.apply config.payloadLimit (.remove record.key) =
        (.ok (.flag true), ledger.remove record.key) := by
      rw [apply, Std.ExtTreeSet.contains_iff_mem.mpr inUse]
    subst held
    exact answers_of_run
      (bind_of_ok (Store.remove_run (image before) (image after) short found)) applied
      (describes.removed split inUse last _) rfl
  · have missing := describes.getElem?_index_of_not_mem inUse
    have applied : ledger.apply config.payloadLimit (.remove key) =
        (.ok (.flag false), ledger) := by
      have unused := mt Std.ExtTreeSet.contains_iff_mem.mp inUse
      rw [apply, Bool.eq_false_iff.mpr unused, remove, if_neg inUse]
    exact answers_of_run (bind_of_ok (Store.remove_run_none bytes missing)) applied
      describes rfl

/-- A scan finds the records that are led to, in the order of the file. -/
theorem scan_run :
    Store.scan (⟨⟨bytes⟩, index, config, stats, true⟩ : Store Memory) =
      .ok ledger.listing ⟨⟨bytes⟩, index, config, stats, true⟩ := by
  have entries : index.byOffset =
      ledger.listing.map fun info => (info.key, info.offset) := by
    apply Index.byOffset_eq
    · exact List.pairwise_map.mpr (pairwise_listingFrom _ _ _)
    · intro key offset
      rw [mem_listing_iff, ← describes.index]
  have each : ∀ info ∈ ledger.listing, Store.recordInfo (info.key, info.offset)
      (⟨⟨bytes⟩, index, config, stats, true⟩ : Store Memory) =
        .ok info ⟨⟨bytes⟩, index, config, stats, true⟩ := by
    intro info member
    rcases mem_listingFrom.mp member with ⟨before, record, after, split, _, _, same⟩
    have held : bytes = image ledger.records := describes.contents
    rw [split, image_split] at held
    rw [same, held, Nat.zero_add, Store.recordInfo,
      bind_of_ok (Store.readLength_run (image before) (image after) record), pure_run]
  rw [Store.scan, bind_of_ok (Store.requireOpen_run _), bind_of_ok (Store.view_run _ _),
    entries, Store.mapM_run each]

/-- Every operation but the closing one works as on the ledger. -/
theorem answers {operation : StoreOperation} (notClose : operation ≠ .close) :
    ledger.Answers operation ⟨⟨bytes⟩, index, config, stats, true⟩ := by
  have members := describes.mem_index
  have held : bytes = image ledger.records := describes.contents
  cases operation with
  | put key payload => exact describes.answers_put key payload
  | get key => exact describes.answers_get key
  | remove key => exact describes.answers_remove key
  | contains key =>
      refine answers_of_run rfl ?_ describes rfl
      rw [apply, ← contains_eq_of_mem members key]
  | offsetOf key =>
      refine answers_of_run rfl ?_ describes rfl
      rw [apply, ← describes.index key]
  | length =>
      refine answers_of_run rfl ?_ describes rfl
      rw [apply, ← size_eq_of_mem members]
  | isEmpty =>
      refine answers_of_run rfl ?_ describes rfl
      rw [apply, Std.ExtTreeSet.isEmpty_eq_size_beq_zero, ← size_eq_of_mem members]
  | keys =>
      refine answers_of_run rfl ?_ describes rfl
      rw [apply, ← keys_eq_of_mem members]
  | fileSize =>
      refine answers_of_run rfl ?_ describes rfl
      rw [apply, ← held]
  | scan => exact answers_of_run (bind_of_ok describes.scan_run) rfl describes rfl
  | flush => exact answers_of_run rfl rfl describes rfl
  | sync => exact answers_of_run rfl rfl describes rfl
  | close => exact absurd rfl notClose

end Describes

/-! ## Runs -/

theorem Describes.outcome_eq {ledger : Ledger} {store : Store Memory}
    (describes : ledger.Describes store) {operation : StoreOperation}
    (notClose : operation ≠ .close) : ledger.Answers operation store := by
  rcases store with ⟨⟨bytes⟩, index, config, stats, isOpen⟩
  cases describes.isOpen
  exact describes.answers notClose

/-- A run in memory answers what the ledger answers, and the ledger it ends with
describes the store it ends with. -/
theorem Describes.runAll_eq {ledger : Ledger} {store : Store Memory}
    (describes : ledger.Describes store) {operations : List StoreOperation}
    (noClose : .close ∉ operations) :
    ∃ after, StoreOperation.runAll operations store =
        ((ledger.runAll store.config.payloadLimit operations).1, after) ∧
      (ledger.runAll store.config.payloadLimit operations).2.Describes after := by
  induction operations generalizing ledger store with
  | nil => exact ⟨store, rfl, describes⟩
  | cons operation rest induction =>
      have notFirst : operation ≠ .close := by
        intro same
        exact noClose (List.mem_cons.mpr (.inl same.symm))
      have notLater : .close ∉ rest := by
        intro member
        exact noClose (List.mem_cons_of_mem _ member)
      rcases describes.outcome_eq notFirst with ⟨middle, stepped, middleDescribes, sameConfig⟩
      rcases induction middleDescribes notLater with ⟨after, ran, afterDescribes⟩
      rw [sameConfig] at ran afterDescribes
      refine ⟨after, ?_, afterDescribes⟩
      rw [StoreOperation.runAll, stepped, Ledger.runAll]
      simp only [ran]

/-- A store opened on a faithful device works as the ledger of the records there, for
as long as the device refuses no call. -/
theorem runAll_of_openDevice {δ : Type} [ByteDevice δ] [FaithfulDevice δ] {config : Config}
    {device : δ} {store : Store δ} {operations : List StoreOperation}
    (sound : FaithfulDevice.Sound device)
    (accepted : Store.openDevice config device = .ok store) (noClose : .close ∉ operations)
    (served : ∀ failure, .error failure ∈ (StoreOperation.runAll operations store).1 →
      ¬failure.IsRefusal) :
    ∃ records, image records = FaithfulDevice.contents device ∧
      AllWithin config.payloadLimit records ∧
      (StoreOperation.runAll operations store).1 =
        ((ofRecords records).runAll config.payloadLimit operations).1 ∧
      ((ofRecords records).runAll config.payloadLimit operations).2.Describes
        (StoreOperation.runAll operations store).2 := by
  rcases Store.exists_records_of_openDevice sound accepted with ⟨records, within, held, same⟩
  have storeSound := (Store.openDevice_ok sound accepted).1
  rcases StoreOperation.runAll_inMemory storeSound served with ⟨_, reflected⟩
  rcases (describes_opened within).runAll_eq noClose with ⟨after, ran, describes⟩
  rw [← same, reflected] at ran
  rcases Prod.mk.inj ran with ⟨sameAnswers, sameStore⟩
  have sameConfig : store.inMemory.config = config := congrArg Store.config same
  rw [sameConfig] at sameAnswers
  refine ⟨records, held.symm, within, sameAnswers, ?_⟩
  rw [← describes_inMemory, sameStore]
  exact describes

/-- The last of two records of one key grows and is removed; the first one is not led
to. -/
theorem runAll_of_openDevice_repeated_key :
    ∃ store, Store.openDevice ⟨true, false, true, false, 0, 10⟩
        (⟨image [⟨.ofPool 1, ⟨#[1, 2, 3]⟩⟩, ⟨.ofPool 1, ⟨#[4]⟩⟩]⟩ : Memory) = .ok store ∧
      (StoreOperation.runAll [.put (.ofPool 1) ⟨#[5, 6]⟩, .remove (.ofPool 1),
          .get (.ofPool 1)] store).1 =
        [.ok .done, .ok (.flag true), .ok (.payload none)] := by
  let config : Config := ⟨true, false, true, false, 0, 10⟩
  let repeated : List Record := [⟨.ofPool 1, ⟨#[1, 2, 3]⟩⟩, ⟨.ofPool 1, ⟨#[4]⟩⟩]
  let operations : List StoreOperation :=
    [.put (.ofPool 1) ⟨#[5, 6]⟩, .remove (.ofPool 1), .get (.ofPool 1)]
  have within : AllWithin config.payloadLimit repeated := by decide
  have noClose : StoreOperation.close ∉ operations := by decide
  have expected : ((ofRecords repeated).runAll config.payloadLimit operations).1 =
      [.ok .done, .ok (.flag true), .ok (.payload none)] := by cbv
  have accepted := Store.openDevice_image within
  have served : ∀ failure, .error failure ∈
      (StoreOperation.runAll operations (Store.opened config repeated)).1 →
        ¬failure.IsRefusal := by
    intro failure member
    rcases (describes_opened within).runAll_eq noClose with ⟨after, ran, _⟩
    have sameConfig : (Store.opened config repeated).config = config := rfl
    rw [ran, sameConfig, expected] at member
    simp at member
  rcases runAll_of_openDevice (FaithfulDevice.sound_memory ⟨image repeated⟩)
      accepted noClose served with ⟨records, held, recordsWithin, answers, _⟩
  have same : records = repeated :=
    eq_of_image_eq config.payloadLimit_le recordsWithin within held
  exact ⟨_, accepted, by rw [answers, same, expected]⟩

end Ledger

end PackedRecords
