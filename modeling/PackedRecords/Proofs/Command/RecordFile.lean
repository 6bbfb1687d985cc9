import PackedRecords.Command.Basic
import PackedRecords.Proofs.Store.OpenPath
import PackedRecords.Proofs.Store.Room

/-! # Commands on a file of records

A file of records with distinct keys that nobody has locked can be opened as a store.
The store holds the lock while it works as its ledger does; when it is closed or
dropped, the path leads to a file of records again that nobody has locked.
-/

namespace PackedRecords

/-- A path leads to a file that holds records with distinct keys, and nobody has locked
it. -/
structure RecordFile (path : Path) (number : Nat) (records : List Record) (disk : Disk) :
    Prop where
  sound : disk.Sound
  opened : Disk.openFile path false disk = .ok number disk
  free : number ∉ disk.locks
  bytes : (disk.contents number).toByteArray = image records
  within : AllWithin maxPayloadSize records
  distinct : (keysOf records).Nodup

/-- The path goes on leading to a file of records if only their bytes change. -/
theorem RecordFile.of_sameNames {path : Path} {number : Nat} {records left : List Record}
    {disk after : Disk} (file : RecordFile path number records disk)
    (nodes : after.nodes = disk.nodes) (locks : after.locks = disk.locks)
    (count : after.files.size = disk.files.size)
    (bytes : (after.contents number).toByteArray = image left)
    (within : AllWithin maxPayloadSize left) (distinct : (keysOf left).Nodup) :
    RecordFile path number left after where
  sound := by
    constructor
    · intro names other member
      rw [nodes] at member
      rw [count]
      exact file.sound.named names other member
    · intro other member
      rw [locks] at member
      rw [count]
      exact file.sound.locked other member
  opened := by
    apply Disk.openFile_mono _ file.opened
    rw [nodes]
  free := by
    rw [locks]
    exact file.free
  bytes := bytes
  within := within
  distinct := distinct

/-! ## Stores at work -/

/-- An operation whose answer is known has made the call that it is about. -/
theorem StoreOperation.ok_of_outcome {δ α : Type} [ByteDevice δ] {operation : StoreOperation}
    {call : StoreM δ α} {wrap : α → StoreAnswer} {store after : Store δ} {value : α}
    (made : operation.run = call >>= fun value => pure (wrap value))
    (injective : ∀ left right, wrap left = wrap right → left = right)
    (outcome : operation.outcome store = (.ok (wrap value), after)) :
    call store = .ok value after := by
  apply ok_of_bind_pure injective
  rw [← made]
  rw [StoreOperation.outcome] at outcome
  cases ran : operation.run store with
  | ok answer final =>
      rw [ran] at outcome
      cases outcome
      rfl
  | error failure final =>
      rw [ran] at outcome
      cases outcome

/-- A store on a file of a disk. It holds the lock on the file, and a ledger without
shadowed records describes it. -/
structure Working (path : Path) (number : Nat) (disk : Disk) (ledger : Ledger)
    (store : Store OpenFile) : Prop where
  describes : ledger.Describes store
  sound : store.device.Sound
  hold : OpenFile.SameHold ⟨disk.lock number, ⟨path, number, 0, true⟩⟩ store.device
  limit : store.config.payloadLimit = maxPayloadSize
  unshadowed : ∀ key, ledger.Unshadowed key

namespace Working

variable {path : Path} {number : Nat} {disk : Disk} {ledger : Ledger} {store : Store OpenFile}

/-- The store works as its ledger does, if there is room for what it puts. -/
theorem outcome (working : Working path number disk ledger store) (operation : StoreOperation)
    (remains : operation ≠ .close)
    (room : ∀ key payload, operation = .put key payload →
      (ledger.apply maxPayloadSize operation).2.Fits) :
    ∃ after, operation.outcome store = ((ledger.apply maxPayloadSize operation).1, after) ∧
      Working path number disk (ledger.apply maxPayloadSize operation).2 after := by
  rw [← working.limit] at room ⊢
  rcases working.describes.outcome_of_fits working.sound remains room with
    ⟨answered, describes, sound, config⟩
  have same := (StoreOperation.outcome_sameHold remains store).1
  refine ⟨(operation.outcome store).2, Prod.ext answered rfl, describes, sound,
    working.hold.trans same, ?_, fun key => (working.unshadowed key).apply _ operation⟩
  rw [config, working.limit]

section Operations

variable (working : Working path number disk ledger store)
include working

theorem get (key : EntityId) :
    ∃ after, Store.get key store = .ok (ledger.payload? key) after ∧
      Working path number disk ledger after := by
  rcases working.outcome (.get key) StoreOperation.noConfusion (by simp) with
    ⟨after, outcome, afterWorking⟩
  exact ⟨after, StoreOperation.ok_of_outcome rfl (fun _ _ => StoreAnswer.payload.inj) outcome,
    afterWorking⟩

theorem contains (key : EntityId) :
    ∃ after, Store.contains key store = .ok (ledger.live.contains key) after ∧
      Working path number disk ledger after := by
  rcases working.outcome (.contains key) StoreOperation.noConfusion (by simp) with
    ⟨after, outcome, afterWorking⟩
  exact ⟨after, StoreOperation.ok_of_outcome rfl (fun _ _ => StoreAnswer.flag.inj) outcome,
    afterWorking⟩

theorem scan :
    ∃ after, Store.scan store = .ok ledger.listing after ∧
      Working path number disk ledger after := by
  rcases working.outcome .scan StoreOperation.noConfusion (by simp) with
    ⟨after, outcome, afterWorking⟩
  exact ⟨after, StoreOperation.ok_of_outcome rfl (fun _ _ => StoreAnswer.records.inj) outcome,
    afterWorking⟩

theorem fileSize :
    ∃ after, Store.fileSize store = .ok (image ledger.records).size after ∧
      Working path number disk ledger after := by
  rcases working.outcome .fileSize StoreOperation.noConfusion (by simp) with
    ⟨after, outcome, afterWorking⟩
  exact ⟨after, StoreOperation.ok_of_outcome rfl (fun _ _ => StoreAnswer.number.inj) outcome,
    afterWorking⟩

theorem remove (key : EntityId) :
    ∃ after, Store.remove key store = .ok (ledger.live.contains key) after ∧
      Working path number disk (ledger.remove key) after := by
  rcases working.outcome (.remove key) StoreOperation.noConfusion (by simp) with
    ⟨after, outcome, afterWorking⟩
  exact ⟨after, StoreOperation.ok_of_outcome rfl (fun _ _ => StoreAnswer.flag.inj) outcome,
    afterWorking⟩

theorem put {payload : ByteArray} (short : payload.size ≤ maxPayloadSize) (key : EntityId)
    (room : (ledger.put key payload).Fits) :
    ∃ after, Store.put key payload store = .ok () after ∧
      Working path number disk (ledger.put key payload) after := by
  have applied : ledger.apply maxPayloadSize (.put key payload) =
      (.ok .done, ledger.put key payload) := by
    rw [Ledger.apply, if_neg (Nat.not_lt_of_le short)]
  have fits : ∀ other bytes, StoreOperation.put key payload = .put other bytes →
      (ledger.apply maxPayloadSize (.put key payload)).2.Fits := by
    rw [applied]
    exact fun _ _ _ => room
  rcases working.outcome (.put key payload) StoreOperation.noConfusion fits with
    ⟨after, outcome, afterWorking⟩
  have made : (StoreOperation.put key payload).run =
      (Store.put key payload : StoreM OpenFile Unit) >>= fun value =>
        pure ((fun _ => StoreAnswer.done) value) := rfl
  rw [applied] at outcome afterWorking
  exact ⟨after, StoreOperation.ok_of_outcome made (fun _ _ _ => rfl) outcome, afterWorking⟩

/-- A payload that is too large is refused before anything else is done. -/
theorem put_large {payload : ByteArray} (large : maxPayloadSize < payload.size)
    (key : EntityId) :
    Store.put key payload store =
      .error (.payloadTooLarge payload.size maxPayloadSize) store := by
  rcases store with ⟨file, index, config, stats, isOpen⟩
  have limit : config.payloadLimit = maxPayloadSize := working.limit
  rw [← limit] at large ⊢
  exact Store.put_run_large large file

/-- When the store gives up its file, the disk is as it was before, except for the
records. -/
theorem released {records : List Record} (file : RecordFile path number records disk) :
    RecordFile path number ledger.records store.device.release.disk ∧
      .ofRecords ledger.records = ledger := by
  rcases working with ⟨describes, sound, hold, limit, unshadowed⟩
  refine ⟨?_, Ledger.ofRecords_eq_self unshadowed describes.recorded⟩
  rcases store with ⟨⟨after, handle⟩, index, config, stats, isOpen⟩
  have sameNumber : handle.number = number := hold.number
  have nodes : after.nodes = disk.nodes := hold.nodes
  have count : after.files.size = disk.files.size := hold.count
  have locks : after.locks = number :: disk.locks := hold.locks
  have unlocked : OpenFile.release ⟨after, handle⟩ = ⟨after.unlock number, handle⟩ := by
    have locked : handle.locked = true := hold.locked
    rw [OpenFile.release, FileHandle.release, if_pos locked, sameNumber]
  -- The lock that was taken last is the one that is given back.
  have restored : (after.unlock number).locks = disk.locks := by
    rw [Disk.unlock, locks, List.erase_cons_head]
  have held : ((after.unlock number).contents number).toByteArray = image ledger.records := by
    rw [← sameNumber]
    exact describes.contents
  have within : AllWithin maxPayloadSize ledger.records := by
    rw [← limit]
    exact describes.within
  simp only [unlocked]
  exact file.of_sameNames nodes restored count held within
    (List.nodup_iff_count.mpr fun key => (unshadowed key).once)

end Operations

end Working

/-! ## Opening -/

/-- Opening an open file as a store is refused nothing. -/
theorem Store.opensFreely_file {config : Config} {file : OpenFile} (sound : file.Sound) :
    OpensFreely config file := by
  intro failure after failed
  rw [openDevice] at failed
  cases ran : buildIndex config.payloadLimit file with
  | ok index scanned =>
      rw [ran] at failed
      cases failed
  | error reason scanned =>
      rw [ran] at failed
      cases failed
      have confined := confined_buildIndex OpenFile.confined_sound config.payloadLimit
      exact (confined.error sound ran).2.served

namespace RecordFile

variable {path : Path} {number : Nat} {records : List Record} {disk prepared created : Disk}

/-- A file of records that has been found is opened as a store of these records. -/
theorem openPath {create : Bool} (file : RecordFile path number records created)
    (ready : Store.prepare (Command.config create) path disk = .ok () prepared)
    (found : Disk.openFile path create prepared = .ok number created) :
    ∃ store after, Store.openPath (Command.config create) path disk = .ok store after ∧
      Working path number created (.ofRecords records)
        (store.withDevice ⟨after, store.device⟩) := by
  let handle : FileHandle := ⟨path, number, (created.contents number).size, true⟩
  have handled : Store.openHandle (Command.config create) path disk =
      .ok handle (created.lock number) := by
    have free : created.isLocked number = false := by
      simpa [Disk.isLocked] using file.free
    rw [Store.openHandle_run, ready]
    simp only [FileHandle.openPath_run, Command.config, found, free, Bool.and_false,
      Bool.false_eq_true, if_false, if_true, handle]
  have named : number < created.files.size := file.sound.lt_of_openFile file.opened
  have sound : (⟨created.lock number, handle⟩ : OpenFile).Sound :=
    ⟨named, SparseBytes.size_toByteArray _, Disk.openFile_of_nodes_eq file.opened rfl⟩
  have within : AllWithin (Command.config create).payloadLimit records := file.within
  rcases Store.exists_openDevice sound (Store.opensFreely_file sound) within file.bytes with
    ⟨store, accepted, same⟩
  have describes := Ledger.describes_inMemory.mp (same.symm ▸ Ledger.describes_opened within)
  have storeSound := (Store.openDevice_ok sound accepted).1
  have config : store.config = Command.config create := congrArg Store.config same
  -- The scan has read the file and nothing else.
  have hold : OpenFile.SameHold ⟨created.lock number, handle⟩ store.device := by
    rcases Store.openDevice_sameHold (Command.config create) ⟨created.lock number, handle⟩ with
      ⟨other, otherwise, held, _⟩ | ⟨_, _, failed, _⟩
    · rw [accepted] at otherwise
      cases otherwise
      exact held
    · rw [accepted] at failed
      cases failed
  refine ⟨store.withDevice store.device.handle, store.device.disk, ?_, ?_⟩
  · simp only [Store.openPath, handled, accepted]
  · have working : Working path number created (.ofRecords records) store :=
      { describes
        sound := storeSound
        hold := ⟨hold.nodes, hold.locks, hold.count, hold.handle⟩
        limit := by
          rw [config]
          rfl
        unshadowed := fun key =>
          Ledger.unshadowed_ofRecords (List.nodup_iff_count.mp file.distinct key) }
    rcases store with ⟨⟨_, _⟩, _, _, _, _⟩
    exact working

section OnStore

variable {α : Type} {create : Bool} {action : StoreM OpenFile α} {ledger : Ledger}
  (file : RecordFile path number records created)
  (ready : Store.prepare (Command.config create) path disk = .ok () prepared)
  (found : Disk.openFile path create prepared = .ok number created)
include file ready found

/-- A command works on the store of the records that it finds and leaves those of the
ledger that it ends with. -/
theorem onStore_ok {value : α}
    (works : ∀ store, Working path number created (.ofRecords records) store →
      ∃ after, action store = .ok value after ∧ Working path number created ledger after) :
    ∃ left, Command.onStore path create action disk = .ok value left ∧
      RecordFile path number ledger.records left ∧ .ofRecords ledger.records = ledger := by
  rcases file.openPath ready found with ⟨handle, opened, accepted, working⟩
  rcases works _ working with ⟨⟨device, index, config, stats, isOpen⟩, ran, afterWorking⟩
  cases afterWorking.describes.isOpen
  refine ⟨device.release.disk, ?_, afterWorking.released file⟩
  simp only [Command.onStore, accepted]
  rw [bind_of_ok ran]
  rfl

theorem onStore_error {failure : StoreError}
    (works : ∀ store, Working path number created (.ofRecords records) store →
      ∃ after, action store = .error failure after ∧ Working path number created ledger after) :
    ∃ left, Command.onStore path create action disk = .error (.store failure) left ∧
      RecordFile path number ledger.records left ∧ .ofRecords ledger.records = ledger := by
  rcases file.openPath ready found with ⟨handle, opened, accepted, working⟩
  rcases works _ working with ⟨⟨device, index, config, stats, isOpen⟩, ran, afterWorking⟩
  cases afterWorking.describes.isOpen
  refine ⟨device.release.disk, ?_, afterWorking.released file⟩
  simp only [Command.onStore, accepted]
  rw [bind_of_error ran]
  rfl

end OnStore

end RecordFile

end PackedRecords
