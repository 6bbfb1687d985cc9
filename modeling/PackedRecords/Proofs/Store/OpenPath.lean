import PackedRecords.Proofs.Disk.OpenFile
import PackedRecords.Store.Medium

/-! # Stores in files

Opening a store in a file takes the lock if the configuration asks for it, and keeps it
only if the store has been opened. Operations of the store leave names and locks alone,
and closing gives up the lock.
-/

namespace PackedRecords

/-! ## Opening -/

namespace FileHandle

/-- An opened file holds the lock if it was to be locked, and nobody held it before. -/
theorem openPath_ok {path : Path} {mode : OpenMode} {disk after : Disk} {handle : FileHandle}
    (opened : openPath path mode disk = .ok handle after) :
    handle.locked = mode.lock ∧
      if mode.lock then
        handle.number ∉ disk.locks ∧ after.locks = handle.number :: disk.locks
      else after.locks = disk.locks := by
  rw [openPath_run] at opened
  cases ran : Disk.openFile path mode.create disk with
  | error reason found =>
      rw [ran] at opened
      cases opened
  | ok number found =>
      have same := (Disk.grows_of_openFile ran).locks
      simp only [ran] at opened
      cases locks : mode.lock with
      | false =>
          simp only [locks, Bool.false_and, Bool.false_eq_true, if_false] at opened
          cases opened
          exact ⟨rfl, same⟩
      | true =>
          simp only [locks, Bool.true_and, if_true] at opened
          split at opened
          · cases opened
          · rename_i free
            cases opened
            refine ⟨rfl, ?_⟩
            simp only [if_true, Disk.lock, same, and_true]
            rw [← same]
            simpa [Disk.isLocked] using free

/-- An opened file is the one that the path leads to. -/
theorem openFile_of_openPath {path : Path} {mode : OpenMode} {disk after : Disk}
    {handle : FileHandle} (opened : openPath path mode disk = .ok handle after) :
    ∃ found, Disk.openFile path mode.create disk = .ok handle.number found := by
  rw [openPath_run] at opened
  cases ran : Disk.openFile path mode.create disk with
  | error reason found =>
      rw [ran] at opened
      cases opened
  | ok number found =>
      simp only [ran] at opened
      split at opened
      · cases opened
      · cases opened
        exact ⟨found, rfl⟩

theorem openPath_error {path : Path} {mode : OpenMode} {disk after : Disk}
    {failure : DeviceError} (failed : openPath path mode disk = .error failure after) :
    after.locks = disk.locks := by
  rw [openPath_run] at failed
  cases ran : Disk.openFile path mode.create disk with
  | error reason found =>
      rw [ran] at failed
      cases failed
      rw [Disk.openFile_error ran]
  | ok number found =>
      simp only [ran] at failed
      split at failed <;> cases failed
      exact (Disk.grows_of_openFile ran).locks

/-- A file is locked out if it is to be locked, can be opened otherwise, and its lock is
held already. -/
theorem openPath_locked_iff {path : Path} {mode : OpenMode} {disk : Disk} :
    (∃ after, openPath path mode disk = .error .locked after) ↔
      mode.lock = true ∧ ∃ number opened,
        Disk.openFile path mode.create disk = .ok number opened ∧ number ∈ disk.locks := by
  rw [openPath_run]
  cases ran : Disk.openFile path mode.create disk with
  | error reason found =>
      constructor
      · rintro ⟨after, impossible⟩
        cases impossible
      · rintro ⟨_, number, opened, impossible, _⟩
        cases impossible
  | ok number found =>
      have same := (Disk.grows_of_openFile ran).locks
      constructor
      · rintro ⟨after, failed⟩
        simp only at failed
        split at failed
        · rename_i out
          rw [Bool.and_eq_true] at out
          refine ⟨out.1, number, found, rfl, ?_⟩
          rw [← same]
          simpa [Disk.isLocked] using out.2
        · cases failed
      · rintro ⟨locks, _, _, opened, held⟩
        cases opened
        rw [← same] at held
        have locked : found.isLocked number = true := by
          simpa [Disk.isLocked] using held
        exact ⟨found, by simp [locks, locked]⟩

/-- An opening that takes the lock of the file for a handle that says so, and otherwise
leaves all locks alone. -/
structure Acquires (opening : FileM FileHandle) : Prop where
  ok : ∀ {disk after : Disk} {handle : FileHandle}, opening disk = .ok handle after →
    if handle.locked then
      handle.number ∉ disk.locks ∧ after.locks = handle.number :: disk.locks
    else after.locks = disk.locks
  error : ∀ {disk after : Disk} {failure : DeviceError},
    opening disk = .error failure after → after.locks = disk.locks

theorem acquires_openPath (path : Path) (mode : OpenMode) : Acquires (openPath path mode) where
  ok opened := by
    rcases openPath_ok opened with ⟨locked, locks⟩
    rwa [← locked] at locks
  error failed := openPath_error failed

/-- Creating the parents first touches no lock, and the file is not locked then. -/
theorem openWithParents_run (path : Path) (disk : Disk) :
    (∃ prepared, disk.Grows prepared ∧
        openWithParents path disk = openPath path ⟨true, false⟩ prepared) ∨
      ∃ reason prepared, disk.Grows prepared ∧
        openWithParents path disk = .error (.io (.system reason)) prepared := by
  rw [openWithParents]
  rcases Disk.ensureParents_cases path disk with
    ⟨prepared, made, grows, _⟩ | ⟨reason, prepared, stopped, grows⟩
  · left
    have ready : onDisk (Disk.ensureParents path) disk = .ok () prepared := by
      simp only [onDisk, made]
    exact ⟨prepared, grows, bind_of_ok ready⟩
  · right
    have refused : onDisk (Disk.ensureParents path) disk =
        .error (.io (.system reason)) prepared := by
      simp only [onDisk, stopped]
    exact ⟨reason, prepared, grows, bind_of_error refused⟩

theorem acquires_openWithParents (path : Path) : Acquires (openWithParents path) where
  ok {disk after handle} opened := by
    rcases openWithParents_run path disk with
      ⟨prepared, grows, ran⟩ | ⟨reason, prepared, _, ran⟩
    · rw [ran] at opened
      rw [← grows.locks]
      exact (acquires_openPath path _).ok opened
    · rw [ran] at opened
      cases opened
  error {disk after failure} failed := by
    rcases openWithParents_run path disk with
      ⟨prepared, grows, ran⟩ | ⟨reason, prepared, grows, ran⟩
    · rw [ran] at failed
      rw [← grows.locks]
      exact openPath_error failed
    · rw [ran] at failed
      cases failed
      exact grows.locks

theorem openWithParents_unlocked {path : Path} {disk after : Disk} {handle : FileHandle}
    (opened : openWithParents path disk = .ok handle after) : handle.locked = false := by
  rcases openWithParents_run path disk with ⟨prepared, _, ran⟩ | ⟨reason, prepared, _, ran⟩
  · rw [ran] at opened
    exact (openPath_ok opened).1
  · rw [ran] at opened
    cases opened

/-- Without asking for the lock nobody is locked out. -/
theorem openWithParents_ne_locked (path : Path) (disk after : Disk) :
    openWithParents path disk ≠ .error .locked after := by
  intro failed
  rcases openWithParents_run path disk with
    ⟨prepared, _, ran⟩ | ⟨reason, prepared, _, ran⟩
  · rw [ran] at failed
    have impossible := (openPath_locked_iff.mp ⟨after, failed⟩).1
    cases impossible
  · rw [ran] at failed
    cases failed

end FileHandle

namespace Store

/-- The disk on which the file of a store is looked up: its parents may have to be there
first. -/
def prepare (config : Config) (path : Path) : DiskM Unit :=
  if config.createParents then Disk.ensureParents path else pure ()

theorem grows_prepare (config : Config) (path : Path) (disk : Disk) :
    disk.Grows (finalState (prepare config path disk)) := by
  rw [prepare]
  split
  · rcases Disk.ensureParents_cases path disk with
      ⟨after, made, grows, _⟩ | ⟨reason, after, stopped, grows⟩
    · rw [made]
      exact grows
    · rw [stopped]
      exact grows
  · exact Disk.Grows.refl disk

theorem prepare_locks (config : Config) (path : Path) (disk : Disk) :
    (finalState (prepare config path disk)).locks = disk.locks :=
  (grows_prepare config path disk).locks

theorem openHandle_run (config : Config) (path : Path) (disk : Disk) :
    openHandle config path disk =
      match prepare config path disk with
      | .error reason prepared => .error (.io (.system reason)) prepared
      | .ok _ prepared =>
          match FileHandle.openPath path ⟨config.createIfMissing, config.lockFile⟩ prepared with
          | .ok handle opened => .ok handle opened
          | .error failure opened => .error (.ofOpening failure) opened := by
  rw [openHandle, prepare]
  cases config.createParents <;> rfl

theorem openHandle_ok {config : Config} {path : Path} {disk after : Disk}
    {handle : FileHandle} (opened : openHandle config path disk = .ok handle after) :
    handle.locked = config.lockFile ∧
      if config.lockFile then
        handle.number ∉ disk.locks ∧ after.locks = handle.number :: disk.locks
      else after.locks = disk.locks := by
  rw [openHandle_run] at opened
  have same := prepare_locks config path disk
  cases prepared : prepare config path disk with
  | error reason middle =>
      rw [prepared] at opened
      cases opened
  | ok value middle =>
      rw [prepared, finalState] at same
      simp only [prepared] at opened
      split at opened
      · rename_i found
        cases opened
        rw [← same]
        exact FileHandle.openPath_ok found
      · cases opened

theorem openFile_of_openHandle {config : Config} {path : Path} {disk after : Disk}
    {handle : FileHandle} (opened : openHandle config path disk = .ok handle after) :
    ∃ prepared found, prepare config path disk = .ok () prepared ∧
      Disk.openFile path config.createIfMissing prepared = .ok handle.number found := by
  rw [openHandle_run] at opened
  cases ready : prepare config path disk with
  | error reason prepared =>
      rw [ready] at opened
      cases opened
  | ok value prepared =>
      simp only [ready] at opened
      split at opened
      · rename_i found
        cases opened
        rcases FileHandle.openFile_of_openPath found with ⟨reached, same⟩
        exact ⟨prepared, reached, rfl, same⟩
      · cases opened

theorem openHandle_error {config : Config} {path : Path} {disk after : Disk}
    {failure : StoreError} (failed : openHandle config path disk = .error failure after) :
    after.locks = disk.locks := by
  rw [openHandle_run] at failed
  have same := prepare_locks config path disk
  cases prepared : prepare config path disk with
  | error reason middle =>
      rw [prepared, finalState] at same
      rw [prepared] at failed
      cases failed
      exact same
  | ok value middle =>
      rw [prepared, finalState] at same
      simp only [prepared] at failed
      split at failed
      · cases failed
      · rename_i refused
        cases failed
        rw [← same]
        exact FileHandle.openPath_error refused

theorem ofOpening_eq_locked_iff {failure : DeviceError} :
    StoreError.ofOpening failure = .locked ↔ failure = .locked := by
  cases failure <;> simp [StoreError.ofOpening]

theorem openHandle_locked_iff {config : Config} {path : Path} {disk : Disk} :
    (∃ after, openHandle config path disk = .error .locked after) ↔
      config.lockFile = true ∧ ∃ prepared number opened,
        prepare config path disk = .ok () prepared ∧
        Disk.openFile path config.createIfMissing prepared = .ok number opened ∧
        number ∈ disk.locks := by
  rw [openHandle_run]
  have same := prepare_locks config path disk
  cases prepared : prepare config path disk with
  | error reason middle =>
      constructor
      · rintro ⟨after, impossible⟩
        cases impossible
      · rintro ⟨_, _, _, _, impossible, _⟩
        cases impossible
  | ok value middle =>
      rw [prepared, finalState] at same
      let mode : OpenMode := ⟨config.createIfMissing, config.lockFile⟩
      have lockedIff : (∃ after, FileHandle.openPath path mode middle = .error .locked after) ↔ _ :=
        FileHandle.openPath_locked_iff
      rw [same] at lockedIff
      constructor
      · rintro ⟨after, failed⟩
        simp only at failed
        split at failed
        · cases failed
        · rename_i reason final refused
          rcases EStateM.Result.error.inj failed with ⟨reported, _⟩
          rw [ofOpening_eq_locked_iff.mp reported] at refused
          rcases lockedIff.mp ⟨final, refused⟩ with ⟨locks, number, opened, found, held⟩
          exact ⟨locks, middle, number, opened, rfl, found, held⟩
      · rintro ⟨locks, _, number, opened, ready, found, held⟩
        cases ready
        rcases lockedIff.mpr ⟨locks, number, opened, found, held⟩ with ⟨after, refused⟩
        simp only [mode] at refused
        simp only [refused]
        exact ⟨after, rfl⟩

/-- The scan of an opening neither takes nor gives up a lock, and if it fails the file
is given up afterwards. -/
theorem openDevice_sameHold (config : Config) (file : OpenFile) :
    (∃ store, openDevice config file = .ok store ∧ file.SameHold store.device ∧
        store.isOpen = true) ∨
      ∃ failure scanned, openDevice config file = .error (failure, scanned.release) ∧
        file.SameHold scanned ∧ failure ≠ .locked := by
  have confined := confined_buildIndex (OpenFile.confinedCalls_sameHold file) config.payloadLimit
  rw [openDevice]
  cases ran : buildIndex config.payloadLimit file with
  | ok index after =>
      exact .inl ⟨_, rfl, confined.ok (OpenFile.SameHold.refl file) ran, rfl⟩
  | error failure after =>
      rcases confined.error (OpenFile.SameHold.refl file) ran with ⟨same, reported⟩
      refine .inr ⟨failure, after, rfl, same, ?_⟩
      rintro rfl
      exact reported

/-- An opened store holds the lock if it was to be locked, and nobody held it before. -/
theorem openPath_ok {config : Config} {path : Path} {disk after : Disk}
    {store : Store FileHandle} (opened : openPath config path disk = .ok store after) :
    store.isOpen = true ∧ store.device.locked = config.lockFile ∧
      if config.lockFile then
        store.device.number ∉ disk.locks ∧ after.locks = store.device.number :: disk.locks
      else after.locks = disk.locks := by
  rw [openPath] at opened
  cases found : openHandle config path disk with
  | error failure middle =>
      rw [found] at opened
      cases opened
  | ok handle middle =>
      simp only [found] at opened
      rcases openHandle_ok found with ⟨locked, locks⟩
      rcases openDevice_sameHold config ⟨middle, handle⟩ with
        ⟨scanned, accepted, same, isOpen⟩ | ⟨failure, scanned, rejected, _, _⟩
      · simp only [accepted] at opened
        cases opened
        refine ⟨isOpen, same.locked.trans locked, ?_⟩
        change if config.lockFile then scanned.device.handle.number ∉ disk.locks ∧
          scanned.device.disk.locks = scanned.device.handle.number :: disk.locks
          else scanned.device.disk.locks = disk.locks
        rw [same.number, same.locks]
        exact locks
      · simp only [rejected] at opened
        cases opened

/-- A store is opened on the file that the path leads to. -/
theorem openFile_of_openStore {config : Config} {path : Path} {disk after : Disk}
    {store : Store FileHandle} (opened : openPath config path disk = .ok store after) :
    ∃ prepared found, prepare config path disk = .ok () prepared ∧
      Disk.openFile path config.createIfMissing prepared = .ok store.device.number found := by
  rw [openPath] at opened
  cases found : openHandle config path disk with
  | error failure middle =>
      rw [found] at opened
      cases opened
  | ok handle middle =>
      simp only [found] at opened
      rcases openDevice_sameHold config ⟨middle, handle⟩ with
        ⟨scanned, accepted, same, _⟩ | ⟨failure, scanned, rejected, _, _⟩
      · simp only [accepted] at opened
        cases opened
        have number : scanned.device.handle.number = handle.number := same.number
        rcases openFile_of_openHandle found with ⟨prepared, reached, ready, leads⟩
        rw [← number] at leads
        exact ⟨prepared, reached, ready, leads⟩
      · simp only [rejected] at opened
        cases opened

/-- A store that cannot be opened leaves the locks as they were, also if the file could
be locked but does not hold records. -/
theorem openPath_error {config : Config} {path : Path} {disk after : Disk}
    {failure : StoreError} (failed : openPath config path disk = .error failure after) :
    after.locks = disk.locks := by
  rw [openPath] at failed
  cases found : openHandle config path disk with
  | error failure middle =>
      rw [found] at failed
      cases failed
      exact openHandle_error found
  | ok handle middle =>
      simp only [found] at failed
      rcases openHandle_ok found with ⟨locked, locks⟩
      rcases openDevice_sameHold config ⟨middle, handle⟩ with
        ⟨scanned, accepted, _, _⟩ | ⟨reason, scanned, rejected, same, _⟩
      · simp only [accepted] at failed
        cases failed
      · simp only [rejected] at failed
        cases failed
        rw [OpenFile.release, FileHandle.release, same.locked.trans locked]
        cases lockFile : config.lockFile with
        | false =>
            rw [lockFile] at locks
            exact same.locks.trans locks
        | true =>
            rw [lockFile] at locks
            simp only [if_true, Disk.unlock, same.locks, same.number]
            rw [locks.2, List.erase_cons_head]

theorem openPath_locked_iff {config : Config} {path : Path} {disk : Disk} :
    (∃ after, openPath config path disk = .error .locked after) ↔
      config.lockFile = true ∧ ∃ prepared number opened,
        prepare config path disk = .ok () prepared ∧
        Disk.openFile path config.createIfMissing prepared = .ok number opened ∧
        number ∈ disk.locks := by
  rw [← openHandle_locked_iff, openPath]
  cases found : openHandle config path disk with
  | error failure middle => simp
  | ok handle middle =>
      rcases openDevice_sameHold config ⟨middle, handle⟩ with
        ⟨scanned, accepted, _, _⟩ | ⟨reason, scanned, rejected, _, other⟩
      · simp [accepted]
      · simp [rejected, other]

end Store

/-! ## Operations -/

namespace StoreOperation

/-- Operations but `close` leave a store open or closed and its hold on the file alone. -/
theorem outcome_sameHold {operation : StoreOperation} (remains : operation ≠ .close)
    (store : Store OpenFile) :
    store.device.SameHold (operation.outcome store).2.device ∧
      (operation.outcome store).2.isOpen = store.isOpen := by
  have calls := OpenFile.confinedCalls_sameHold store.device
  have growing : ∀ additional, Confined (OpenFile.SameHold store.device) (fun _ => True)
      (ByteDevice.extend additional) := fun additional =>
    (OpenFile.confined_sameHold store.device (.extend additional)).of_bind_pure
  have confines : Store.Confines (OpenFile.SameHold store.device) (fun _ => True) store.config
      store.isOpen operation.run :=
    StoreOperation.confines_run calls remains fun key payload _ =>
      Store.confines_put calls growing key payload
  have stays : Store.Stays (OpenFile.SameHold store.device) store.config store.isOpen store :=
    ⟨OpenFile.SameHold.refl _, rfl, rfl⟩
  rw [outcome]
  cases ran : operation.run store with
  | ok answer after =>
      have still := confines.ok stays ran
      exact ⟨still.device, still.isOpen⟩
  | error failure after =>
      have still := (confines.error stays ran).1
      exact ⟨still.device, still.isOpen⟩

/-- Closing gives up the file once. -/
theorem run_close (store : Store OpenFile) :
    close.run store =
      .ok .done ⟨if store.isOpen then store.device.release else store.device, store.index,
        store.config, store.stats, false⟩ := by
  rcases store with ⟨device, index, config, stats, isOpen⟩
  cases isOpen <;> rfl

end StoreOperation

end PackedRecords
