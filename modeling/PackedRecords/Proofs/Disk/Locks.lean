import PackedRecords.Device.Operation
import PackedRecords.Disk.Workspace
import PackedRecords.Proofs.Store.OpenPath
import PackedRecords.Store.Operation

/-! # One holder for each lock

In a workspace the locked files are those whose locks the live handles hold, and each
lock has one holder. Whatever is done with the handles, and whatever is done to the disk
from outside, keeps it that way.
-/

namespace PackedRecords

/-- One thing that happens in a workspace: a handle is opened under a name, used or
dropped, or the disk is changed by somebody else. -/
inductive WorkspaceStep where
  | openStore (name : String) (path : Path) (config : Config)
  | openFile (name : String) (path : Path) (mode : OpenMode)
  | openWithParents (name : String) (path : Path)
  | operate (name : String) (operation : StoreOperation)
  | transfer (name : String) (operation : DeviceOperation)
  | drop (name : String)
  | writeFile (path : Path) (bytes : ByteArray)
  | deleteFile (path : Path)
  | makeDirectory (path : Path)

/-- The step uses a handle without closing it, or changes the disk from outside. -/
def WorkspaceStep.IsUse : WorkspaceStep → Prop
  | operate _ operation => operation ≠ .close
  | transfer _ _ | writeFile _ _ | deleteFile _ | makeDirectory _ => True
  | openStore _ _ _ | openFile _ _ _ | openWithParents _ _ | drop _ => False

/-- Dropping a handle gives up its lock and does nothing else to the disk. -/
theorem Handle.drop_eq (handle : Handle) (disk : Disk) :
    handle.drop disk = if handle.locked then disk.unlock handle.number else disk := by
  cases handle with
  | store opened =>
      rcases opened with ⟨⟨path, number, known, locked⟩, index, config, stats, isOpen⟩
      cases isOpen <;> cases locked <;> rfl
  | file opened =>
      rcases opened with ⟨path, number, known, locked⟩
      cases locked <;> rfl

namespace Workspace

/-- The workspace after a step, whether or not what was tried succeeded. -/
def step (workspace : Workspace) : WorkspaceStep → Workspace
  | .openStore name path config => finalState (openStore name path config workspace)
  | .openFile name path mode =>
      finalState (openFile name (FileHandle.openPath path mode) workspace)
  | .openWithParents name path =>
      finalState (openFile name (FileHandle.openWithParents path) workspace)
  | .operate name operation =>
      match workspace.handle? name with
      | some (.store store) => finalState (onStore name store operation.run workspace)
      | _ => workspace
  | .transfer name operation =>
      match workspace.handle? name with
      | some (.file file) => (onOpenFile name file operation.outcome workspace).2
      | _ => workspace
  | .drop name => workspace.drop name
  | .writeFile path bytes => finalState (onDisk (Disk.writeFile path bytes) workspace)
  | .deleteFile path => finalState (onDisk (Disk.deleteFile path) workspace)
  | .makeDirectory path => finalState (onDisk (Disk.makeDirectory path) workspace)

def runAll (workspace : Workspace) (steps : List WorkspaceStep) : Workspace :=
  steps.foldl step workspace

/-! ## The invariant -/

/-- The files whose locks some handles hold. -/
def lockedFiles (handles : List (String × Handle)) : List Nat :=
  (handles.filter fun entry => entry.2.locked).map fun entry => entry.2.number

/-- Handles have different names, the locks taken are those that the handles hold, and
no lock is held twice. -/
structure Orderly (locks : List Nat) (handles : List (String × Handle)) : Prop where
  names : (handles.map Prod.fst).Nodup
  held : locks.Perm (lockedFiles handles)
  exclusive : locks.Nodup

theorem lockedFiles_cons (name : String) (handle : Handle) (rest : List (String × Handle)) :
    lockedFiles ((name, handle) :: rest) =
      if handle.locked then handle.number :: lockedFiles rest else lockedFiles rest := by
  cases locked : handle.locked <;> simp [lockedFiles, locked]

namespace Orderly

variable {locks : List Nat} {handles rest : List (String × Handle)} {name : String}
  {handle : Handle}

theorem perm (orderly : Orderly locks handles) {others : List (String × Handle)}
    (same : handles.Perm others) : Orderly locks others where
  names := (same.map _).nodup_iff.mp orderly.names
  held := orderly.held.trans ((same.filter _).map _)
  exclusive := orderly.exclusive

/-- A new handle takes the lock of its file, which must be free, or none. -/
theorem add (orderly : Orderly locks rest) (fresh : name ∉ rest.map Prod.fst)
    (free : handle.locked = true → handle.number ∉ locks) :
    Orderly (if handle.locked then handle.number :: locks else locks)
      ((name, handle) :: rest) := by
  constructor
  · rw [List.map_cons, List.nodup_cons]
    exact ⟨fresh, orderly.names⟩
  · rw [lockedFiles_cons]
    cases locked : handle.locked with
    | false => exact orderly.held
    | true => exact orderly.held.cons handle.number
  · cases locked : handle.locked with
    | false => exact orderly.exclusive
    | true => exact List.nodup_cons.mpr ⟨free locked, orderly.exclusive⟩

/-- A handle that goes away gives up its lock. -/
theorem remove (orderly : Orderly locks ((name, handle) :: rest)) :
    Orderly (if handle.locked then locks.erase handle.number else locks) rest := by
  rcases orderly with ⟨names, held, exclusive⟩
  rw [List.map_cons, List.nodup_cons] at names
  rw [lockedFiles_cons] at held
  cases locked : handle.locked with
  | false =>
      rw [locked] at held
      exact ⟨names.2, held, exclusive⟩
  | true =>
      rw [locked] at held
      have remaining := held.erase handle.number
      simp only [if_true, List.erase_cons_head] at remaining
      exact ⟨names.2, remaining, exclusive.erase _⟩

theorem fresh (orderly : Orderly locks ((name, handle) :: rest)) :
    name ∉ rest.map Prod.fst := by
  have names := orderly.names
  rw [List.map_cons, List.nodup_cons] at names
  exact names.1

/-- A handle that holds what it held before can take its place. -/
theorem change (orderly : Orderly locks ((name, handle) :: rest)) {changed : Handle}
    (sameLock : changed.locked = handle.locked) (sameFile : changed.number = handle.number) :
    Orderly locks ((name, changed) :: rest) := by
  rcases orderly with ⟨names, held, exclusive⟩
  refine ⟨names, ?_, exclusive⟩
  rwa [lockedFiles_cons, sameLock, sameFile, ← lockedFiles_cons name]

/-- The locks taken are those that handles hold. -/
theorem mem_locks_iff (orderly : Orderly locks handles) (number : Nat) :
    number ∈ locks ↔
      ∃ entry ∈ handles, entry.2.locked = true ∧ entry.2.number = number := by
  rw [orderly.held.mem_iff, lockedFiles]
  simp only [List.mem_map, List.mem_filter]
  constructor
  · rintro ⟨entry, ⟨member, locked⟩, same⟩
    exact ⟨entry, member, locked, same⟩
  · rintro ⟨entry, member, locked, same⟩
    exact ⟨entry, ⟨member, locked⟩, same⟩

/-- A file's lock has at most one holder. -/
theorem length_holders_le (orderly : Orderly locks handles) (number : Nat) :
    (handles.filter fun entry => entry.2.locked && entry.2.number == number).length ≤ 1 := by
  have once := List.nodup_iff_count_le_one.mp (orderly.held.nodup_iff.mp orderly.exclusive) number
  rw [lockedFiles, List.count, List.countP_map, List.countP_eq_length_filter,
    List.filter_filter] at once
  simpa [Function.comp_def, Bool.and_comm] using once

end Orderly

theorem filter_of_ne {name : String} {handles : List (String × Handle)}
    (others : ∀ entry ∈ handles, entry.1 ≠ name) : handles.filter (·.1 ≠ name) = handles := by
  apply List.filter_eq_self.mpr
  intro entry member
  simpa using others entry member

theorem map_of_ne {name : String} {handles : List (String × Handle)}
    (others : ∀ entry ∈ handles, entry.1 ≠ name) (changed : Handle) :
    (handles.map fun entry => if entry.1 = name then (name, changed) else entry) = handles := by
  have same : (handles.map fun entry => if entry.1 = name then (name, changed) else entry) =
      handles.map id :=
    List.map_congr_left fun entry member => if_neg (others entry member)
  rw [same, List.map_id]

/-- What stands beside a handle stays when the handle is dropped or replaced. -/
theorem exists_rest {handles : List (String × Handle)}
    (names : (handles.map Prod.fst).Nodup) {name : String} {handle : Handle}
    (found : handles.lookup name = some handle) :
    ∃ rest, handles.Perm ((name, handle) :: rest) ∧ handles.filter (·.1 ≠ name) = rest ∧
      ∀ changed, (handles.map fun entry =>
        if entry.1 = name then (name, changed) else entry).Perm ((name, changed) :: rest) := by
  rw [List.lookup_eq_some_iff] at found
  rcases found with ⟨before, after, rfl, _⟩
  rw [List.map_append, List.map_cons, List.nodup_middle, List.nodup_cons, ← List.map_append]
    at names
  have others : ∀ entry ∈ before ++ after, entry.1 ≠ name := by
    intro entry member same
    apply names.1
    rw [← same]
    exact List.mem_map.mpr ⟨entry, member, rfl⟩
  rcases List.forall_mem_append.mp others with ⟨othersBefore, othersAfter⟩
  refine ⟨before ++ after, List.perm_middle, ?_, ?_⟩
  · rw [List.filter_append, List.filter_cons_of_neg (by simp), filter_of_ne othersBefore,
      filter_of_ne othersAfter]
  · intro changed
    rw [List.map_append, List.map_cons, if_pos rfl, map_of_ne othersBefore,
      map_of_ne othersAfter]
    exact List.perm_middle

/-! ## Steps -/

/-- The handles of a workspace and the locks on its disk fit together. -/
abbrev Fits (workspace : Workspace) : Prop :=
  Orderly workspace.disk.locks workspace.handles

variable {workspace : Workspace}

/-- Dropping gives up the lock of what had the name, and the name is free then. -/
theorem fits_drop (fits : workspace.Fits) (name : String) :
    (workspace.drop name).Fits ∧ name ∉ (workspace.drop name).handles.map Prod.fst := by
  rw [drop]
  cases found : workspace.handle? name with
  | none =>
      rw [handle?, List.lookup_eq_none_iff] at found
      refine ⟨fits, ?_⟩
      intro member
      rcases List.mem_map.mp member with ⟨entry, inside, same⟩
      simpa [same] using found entry inside
  | some handle =>
      rcases exists_rest fits.names found with ⟨rest, same, kept, _⟩
      have orderly := fits.perm same
      have dropped := orderly.remove
      simp only [kept]
      refine ⟨?_, orderly.fresh⟩
      rw [Fits, Handle.drop_eq]
      cases locked : handle.locked with
      | false => simpa [locked] using dropped
      | true => simpa [locked, Disk.unlock] using dropped

/-- A handle that has been opened is kept under a name that is free. -/
theorem fits_keep {name : String} {handle : Handle} {disk : Disk} (fits : workspace.Fits)
    (fresh : name ∉ workspace.handles.map Prod.fst)
    (acquired : if handle.locked then
        handle.number ∉ workspace.disk.locks ∧ disk.locks = handle.number :: workspace.disk.locks
      else disk.locks = workspace.disk.locks) :
    Fits (keep name handle { workspace with disk }) := by
  change Orderly disk.locks ((name, handle) :: workspace.handles)
  cases locked : handle.locked with
  | false =>
      simp only [locked, Bool.false_eq_true, if_false] at acquired
      have free : handle.locked = true → handle.number ∉ workspace.disk.locks := by
        intro impossible
        rw [locked] at impossible
        cases impossible
      have added := fits.add fresh free
      rwa [locked, if_neg Bool.false_ne_true, ← acquired] at added
  | true =>
      simp only [locked, if_true] at acquired
      have free : handle.locked = true → handle.number ∉ workspace.disk.locks :=
        fun _ => acquired.1
      have added := fits.add fresh free
      rwa [locked, if_pos rfl, ← acquired.2] at added

theorem fits_openFile (fits : workspace.Fits) (name : String) {opening : FileM FileHandle}
    (acquires : FileHandle.Acquires opening) :
    Fits (finalState (openFile name opening workspace)) := by
  rcases fits_drop fits name with ⟨dropped, fresh⟩
  rw [openFile]
  cases ran : opening (workspace.drop name).disk with
  | ok file disk =>
      simp only [finalState]
      exact fits_keep dropped fresh (acquires.ok ran)
  | error failure disk =>
      simp only [finalState]
      rw [Fits, acquires.error ran]
      exact dropped

/-- An opened store has acquired the lock of its file if it was to be locked. -/
theorem acquired_openPath {config : Config} {path : Path} {store : Store FileHandle}
    {before disk : Disk} (ran : Store.openPath config path before = .ok store disk) :
    (Handle.store store).locked = config.lockFile ∧
      if (Handle.store store).locked then
        store.device.number ∉ before.locks ∧ disk.locks = store.device.number :: before.locks
      else disk.locks = before.locks := by
  rcases Store.openPath_ok ran with ⟨isOpen, locked, locks⟩
  have same : (Handle.store store).locked = config.lockFile := by
    simp only [Handle.locked, isOpen, locked, Bool.true_and]
  rw [same]
  exact ⟨rfl, locks⟩

theorem fits_openStore (fits : workspace.Fits) (name : String) (path : Path)
    (config : Config) : Fits (finalState (openStore name path config workspace)) := by
  rcases fits_drop fits name with ⟨dropped, fresh⟩
  rw [openStore]
  cases ran : Store.openPath config path (workspace.drop name).disk with
  | ok store disk =>
      simp only [finalState]
      exact fits_keep dropped fresh (acquired_openPath ran).2
  | error failure disk =>
      simp only [finalState]
      rw [Fits, Store.openPath_error ran]
      exact dropped

/-- A handle that is used goes on holding what it holds. -/
theorem fits_replace {name : String} {handle changed : Handle} {disk : Disk}
    (fits : workspace.Fits) (found : workspace.handle? name = some handle)
    (sameLock : changed.locked = handle.locked) (sameFile : changed.number = handle.number)
    (locks : disk.locks = workspace.disk.locks) :
    Fits (replace name changed { workspace with disk }) := by
  rcases exists_rest fits.names found with ⟨rest, same, _, replaced⟩
  change Orderly disk.locks _
  rw [locks]
  exact ((fits.perm same).change sameLock sameFile).perm (replaced changed).symm

/-- A handle that gives up its lock may stay. -/
theorem fits_replace_unlocked {name : String} {handle changed : Handle} {disk : Disk}
    (fits : workspace.Fits) (found : workspace.handle? name = some handle)
    (unlocked : changed.locked = false)
    (locks : disk.locks = if handle.locked then workspace.disk.locks.erase handle.number
      else workspace.disk.locks) :
    Fits (replace name changed { workspace with disk }) := by
  rcases exists_rest fits.names found with ⟨rest, same, _, replaced⟩
  have orderly := fits.perm same
  have remaining := orderly.remove
  rw [← locks] at remaining
  have free : changed.locked = true → changed.number ∉ disk.locks := by
    intro impossible
    rw [unlocked] at impossible
    cases impossible
  have added := remaining.add orderly.fresh free
  change Orderly disk.locks _
  rw [unlocked, if_neg Bool.false_ne_true] at added
  exact added.perm (replaced changed).symm

theorem finalState_onStore (name : String) (store : Store FileHandle)
    (operation : StoreOperation) :
    let after := (operation.outcome
      (store.withDevice (⟨workspace.disk, store.device⟩ : OpenFile))).2
    finalState (onStore name store operation.run workspace) =
      replace name (.store (after.withDevice after.device.handle))
        { workspace with disk := after.device.disk } := by
  rw [onStore, StoreOperation.outcome]
  cases operation.run (store.withDevice (⟨workspace.disk, store.device⟩ : OpenFile)) <;> rfl

theorem fits_operate (fits : workspace.Fits) {name : String} {store : Store FileHandle}
    (found : workspace.handle? name = some (.store store)) (operation : StoreOperation) :
    Fits (finalState (onStore name store operation.run workspace)) := by
  rw [finalState_onStore]
  by_cases close : operation = .close
  · rw [close, StoreOperation.outcome, StoreOperation.run_close]
    rcases store with ⟨⟨path, number, known, locked⟩, index, config, stats, isOpen⟩
    apply fits_replace_unlocked fits found rfl
    cases isOpen <;> cases locked <;> rfl
  · rcases StoreOperation.outcome_sameHold close
      (store.withDevice (⟨workspace.disk, store.device⟩ : OpenFile)) with ⟨same, isOpen⟩
    apply fits_replace fits found
    · simp only [Handle.locked]
      exact congrArg₂ (· && ·) isOpen same.locked
    · exact same.number
    · exact same.locks

theorem fits_transfer (fits : workspace.Fits) {name : String} {file : FileHandle}
    (found : workspace.handle? name = some (.file file)) (operation : DeviceOperation) :
    Fits (onOpenFile name file operation.outcome workspace).2 := by
  have same := OpenFile.sameHold_outcome operation ⟨workspace.disk, file⟩
  exact fits_replace fits found same.locked same.number same.locks

theorem finalState_onDisk {α : Type} (action : DiskM α) :
    finalState (onDisk action workspace) =
      { workspace with disk := finalState (action workspace.disk) } := by
  rw [onDisk]
  cases action workspace.disk <;> rfl

theorem locks_onDisk {α : Type} {action : DiskM α}
    (locks : ∀ disk, (finalState (action disk)).locks = disk.locks) :
    (finalState (onDisk action workspace)).disk.locks = workspace.disk.locks := by
  rw [finalState_onDisk]
  exact locks workspace.disk

theorem fits_onDisk {α : Type} (fits : workspace.Fits) {action : DiskM α}
    (locks : ∀ disk, (finalState (action disk)).locks = disk.locks) :
    Fits (finalState (onDisk action workspace)) := by
  rw [Fits, locks_onDisk locks, finalState_onDisk]
  exact fits

theorem fits_step (fits : workspace.Fits) (step : WorkspaceStep) :
    (workspace.step step).Fits := by
  cases step with
  | openStore name path config => exact fits_openStore fits name path config
  | openFile name path mode =>
      exact fits_openFile fits name (FileHandle.acquires_openPath path mode)
  | openWithParents name path =>
      exact fits_openFile fits name (FileHandle.acquires_openWithParents path)
  | operate name operation =>
      simp only [Workspace.step]
      split
      · rename_i found
        exact fits_operate fits found operation
      · exact fits
  | transfer name operation =>
      simp only [Workspace.step]
      split
      · rename_i found
        exact fits_transfer fits found operation
      · exact fits
  | drop name => exact (fits_drop fits name).1
  | writeFile path bytes => exact fits_onDisk fits (Disk.locks_writeFile path bytes)
  | deleteFile path => exact fits_onDisk fits (Disk.locks_deleteFile path)
  | makeDirectory path => exact fits_onDisk fits (Disk.locks_makeDirectory path)

theorem fits_runAll (fits : workspace.Fits) (steps : List WorkspaceStep) :
    (workspace.runAll steps).Fits := by
  induction steps generalizing workspace with
  | nil => exact fits
  | cons first rest induction => exact induction (fits_step fits first)

/-! ## Mutual exclusion -/

/-- A live handle holds the lock of a file. -/
def Holds (workspace : Workspace) (number : Nat) : Prop :=
  ∃ entry ∈ workspace.handles, entry.2.locked = true ∧ entry.2.number = number

theorem mem_locks_iff (fits : workspace.Fits) (number : Nat) :
    number ∈ workspace.disk.locks ↔ workspace.Holds number :=
  fits.mem_locks_iff number

/-- A live handle has been added under a name. It has taken the lock of its file, which
nobody held, if it was to be locked, and no other lock. -/
structure Opened (before : Workspace) (name : String) (handle : Handle) (lock : Bool)
    (after : Workspace) : Prop where
  handles : after.handles = (name, handle) :: before.handles
  locked : handle.locked = lock
  free : lock = true → ¬before.Holds handle.number
  holds : ∀ number,
    after.Holds number ↔ before.Holds number ∨ lock = true ∧ handle.number = number

/-- What holds of a workspace in which locks exclude one another. Opening under a name
drops what had the name before, so what is said of an opening is said of the workspace
without that. -/
structure MutualExclusion (workspace : Workspace) : Prop where
  /-- The lock of a file has at most one holder. -/
  holders : ∀ number, (workspace.handles.filter fun entry =>
    entry.2.locked && entry.2.number == number).length ≤ 1
  /-- A lock is taken as long as a live handle holds it. -/
  taken : ∀ number, workspace.disk.isLocked number = true ↔ workspace.Holds number
  /-- A file is locked out exactly when it is to be locked, can be opened otherwise, and
  a live handle holds its lock. -/
  openFile_locked : ∀ name path mode,
    (∃ after, openFile name (FileHandle.openPath path mode) workspace =
        .error .locked after) ↔
      mode.lock = true ∧ ∃ number opened,
        Disk.openFile path mode.create (workspace.drop name).disk = .ok number opened ∧
        (workspace.drop name).Holds number
  /-- An opened file is the one that the path leads to, and has the lock it was to have. -/
  openFile_opened : ∀ name path mode file after,
    openFile name (FileHandle.openPath path mode) workspace = .ok file after →
      Opened (workspace.drop name) name (.file file) mode.lock after ∧ ∃ opened,
        Disk.openFile path mode.create (workspace.drop name).disk = .ok file.number opened
  /-- A failed opening of a file takes and releases nothing. -/
  openFile_failed : ∀ name path mode failure after,
    openFile name (FileHandle.openPath path mode) workspace = .error failure after →
      after.handles = (workspace.drop name).handles ∧
        after.disk.locks = (workspace.drop name).disk.locks
  /-- Opening a file together with its parents asks for no lock. -/
  openWithParents_locked : ∀ name path after,
    openFile name (FileHandle.openWithParents path) workspace ≠ .error .locked after
  openWithParents_opened : ∀ name path file after,
    openFile name (FileHandle.openWithParents path) workspace = .ok file after →
      Opened (workspace.drop name) name (.file file) false after
  openWithParents_failed : ∀ name path failure after,
    openFile name (FileHandle.openWithParents path) workspace = .error failure after →
      after.handles = (workspace.drop name).handles ∧
        after.disk.locks = (workspace.drop name).disk.locks
  /-- A store is locked out exactly when its file is to be locked, can be opened
  otherwise, and a live handle holds its lock. -/
  openStore_locked : ∀ name path config,
    (∃ after, openStore name path config workspace = .error .locked after) ↔
      config.lockFile = true ∧ ∃ prepared number opened,
        Store.prepare config path (workspace.drop name).disk = .ok () prepared ∧
        Disk.openFile path config.createIfMissing prepared = .ok number opened ∧
        (workspace.drop name).Holds number
  /-- An opened store is on the file that the path leads to, and has the lock it was to
  have. -/
  openStore_opened : ∀ name path config after,
    openStore name path config workspace = .ok () after → ∃ store,
      store.isOpen = true ∧
      Opened (workspace.drop name) name (.store store) config.lockFile after ∧
      ∃ prepared opened,
        Store.prepare config path (workspace.drop name).disk = .ok () prepared ∧
        Disk.openFile path config.createIfMissing prepared = .ok store.device.number opened
  /-- A failed opening of a store takes and releases nothing, be it locked out or at fault
  with what the file holds. -/
  openStore_failed : ∀ name path config failure after,
    openStore name path config workspace = .error failure after →
      after.handles = (workspace.drop name).handles ∧
        after.disk.locks = (workspace.drop name).disk.locks
  /-- A closed store lives on without its lock. -/
  close : ∀ name store, workspace.handle? name = some (.store store) →
    ∃ closed after, onStore name store StoreOperation.close.run workspace = .ok .done after ∧
      (name, .store closed) ∈ after.handles ∧ closed.isOpen = false ∧
      ∀ number, after.Holds number ↔ workspace.Holds number ∧
        ¬(store.isOpen = true ∧ store.device.locked = true ∧ store.device.number = number)
  /-- A dropped handle is gone with its lock, and no other. -/
  drop : ∀ name number, (workspace.drop name).Holds number ↔
    ∃ entry ∈ workspace.handles, entry.1 ≠ name ∧ entry.2.locked = true ∧
      entry.2.number = number
  /-- Nothing else moves a lock. -/
  use : ∀ step : WorkspaceStep, step.IsUse → ∀ number,
    (workspace.step step).Holds number ↔ workspace.Holds number

/-- A handle that is added holds the lock that it has acquired. -/
theorem opened_keep (fits : workspace.Fits) {name : String} {handle : Handle} {disk : Disk}
    (acquired : if handle.locked then
        handle.number ∉ workspace.disk.locks ∧ disk.locks = handle.number :: workspace.disk.locks
      else disk.locks = workspace.disk.locks) :
    Opened workspace name handle handle.locked (keep name handle { workspace with disk }) where
  handles := rfl
  locked := rfl
  free locked := by
    rw [if_pos locked] at acquired
    exact mt (mem_locks_iff fits handle.number).mpr acquired.1
  holds number := by
    simp only [Holds, keep, List.exists_mem_cons_iff]
    exact or_comm

theorem openFile_opened (fits : workspace.Fits) {name : String} {opening : FileM FileHandle}
    (acquires : FileHandle.Acquires opening) {file : FileHandle} {after : Workspace}
    (opened : openFile name opening workspace = .ok file after) :
    Opened (workspace.drop name) name (.file file) file.locked after ∧
      ∃ disk, opening (workspace.drop name).disk = .ok file disk := by
  rw [openFile] at opened
  cases ran : opening (workspace.drop name).disk with
  | error reason disk =>
      simp only [ran] at opened
      cases opened
  | ok found disk =>
      simp only [ran] at opened
      cases opened
      have added : Opened (workspace.drop name) name (.file file) (Handle.file file).locked
          (keep name (.file file) { workspace.drop name with disk }) :=
        opened_keep (fits_drop fits name).1 (acquires.ok ran)
      exact ⟨added, disk, rfl⟩

theorem openStore_opened (fits : workspace.Fits) {name : String} {path : Path}
    {config : Config} {after : Workspace}
    (opened : openStore name path config workspace = .ok () after) :
    ∃ store, store.isOpen = true ∧
      Opened (workspace.drop name) name (.store store) config.lockFile after ∧
      ∃ disk, Store.openPath config path (workspace.drop name).disk = .ok store disk := by
  rw [openStore] at opened
  cases ran : Store.openPath config path (workspace.drop name).disk with
  | error reason disk =>
      simp only [ran] at opened
      cases opened
  | ok store disk =>
      simp only [ran] at opened
      cases opened
      rcases acquired_openPath ran with ⟨locked, locks⟩
      have added : Opened (workspace.drop name) name (.store store) (Handle.store store).locked
          (keep name (.store store) { workspace.drop name with disk }) :=
        opened_keep (fits_drop fits name).1 locks
      rw [locked] at added
      exact ⟨store, (Store.openPath_ok ran).1, added, disk, rfl⟩

theorem openFile_locked_iff {name : String} {opening : FileM FileHandle} :
    (∃ after, openFile name opening workspace = .error .locked after) ↔
      ∃ after, opening (workspace.drop name).disk = .error .locked after := by
  rw [openFile]
  cases opening (workspace.drop name).disk <;> simp

theorem openFile_failed {name : String} {opening : FileM FileHandle}
    (acquires : FileHandle.Acquires opening) {failure : DeviceError} {after : Workspace}
    (failed : openFile name opening workspace = .error failure after) :
    after.handles = (workspace.drop name).handles ∧
      after.disk.locks = (workspace.drop name).disk.locks := by
  rw [openFile] at failed
  cases ran : opening (workspace.drop name).disk with
  | ok file disk =>
      simp only [ran] at failed
      cases failed
  | error reason disk =>
      simp only [ran] at failed
      cases failed
      exact ⟨rfl, acquires.error ran⟩

theorem openStore_locked_iff {name : String} {path : Path} {config : Config} :
    (∃ after, openStore name path config workspace = .error .locked after) ↔
      ∃ after, Store.openPath config path (workspace.drop name).disk = .error .locked after := by
  rw [openStore]
  cases Store.openPath config path (workspace.drop name).disk <;> simp

theorem openStore_failed {name : String} {path : Path} {config : Config}
    {failure : StoreError} {after : Workspace}
    (failed : openStore name path config workspace = .error failure after) :
    after.handles = (workspace.drop name).handles ∧
      after.disk.locks = (workspace.drop name).disk.locks := by
  rw [openStore] at failed
  cases ran : Store.openPath config path (workspace.drop name).disk with
  | ok store disk =>
      simp only [ran] at failed
      cases failed
  | error reason disk =>
      simp only [ran] at failed
      cases failed
      exact ⟨rfl, Store.openPath_error ran⟩

theorem onStore_close (fits : workspace.Fits) {name : String} {store : Store FileHandle}
    (found : workspace.handle? name = some (.store store)) :
    ∃ closed after, onStore name store StoreOperation.close.run workspace = .ok .done after ∧
      (name, .store closed) ∈ after.handles ∧ closed.isOpen = false ∧
      ∀ number, after.Holds number ↔ workspace.Holds number ∧
        ¬(store.isOpen = true ∧ store.device.locked = true ∧ store.device.number = number) := by
  let closed : Store FileHandle := { store with isOpen := false }
  let disk := (Handle.store store).drop workspace.disk
  let after := replace name (.store closed) { workspace with disk }
  have ran : onStore name store StoreOperation.close.run workspace = .ok .done after := by
    rw [onStore, StoreOperation.run_close]
    rcases store with ⟨handle, index, config, stats, isOpen⟩
    cases isOpen <;> rfl
  have afterFits : after.Fits := by
    have operated := fits_operate fits found .close
    rwa [ran] at operated
  refine ⟨closed, after, ran, ?_, rfl, ?_⟩
  · rcases exists_rest fits.names found with ⟨rest, _, _, replaced⟩
    exact (replaced (.store closed)).mem_iff.mpr List.mem_cons_self
  · intro number
    rw [← mem_locks_iff afterFits, ← mem_locks_iff fits]
    have both : (Handle.store store).locked = true ↔
        store.isOpen = true ∧ store.device.locked = true := by
      rw [Handle.locked, Bool.and_eq_true]
    have locks : disk.locks = if (Handle.store store).locked then
        workspace.disk.locks.erase store.device.number else workspace.disk.locks := by
      simp only [disk, Handle.drop_eq]
      split <;> rfl
    change number ∈ disk.locks ↔ _
    rw [locks]
    by_cases holds : (Handle.store store).locked = true
    · rw [if_pos holds, fits.exclusive.mem_erase_iff]
      rcases both.mp holds with ⟨isOpen, locked⟩
      simp only [isOpen, locked, true_and, and_comm, ne_comm]
    · rw [if_neg holds]
      have nothing : ¬(store.isOpen = true ∧ store.device.locked = true ∧
          store.device.number = number) :=
        fun ⟨isOpen, locked, _⟩ => holds (both.mpr ⟨isOpen, locked⟩)
      simp only [nothing, not_false_eq_true, and_true]

theorem holds_drop_iff (name : String) (number : Nat) :
    (workspace.drop name).Holds number ↔
      ∃ entry ∈ workspace.handles, entry.1 ≠ name ∧ entry.2.locked = true ∧
        entry.2.number = number := by
  have kept : (workspace.drop name).handles = workspace.handles.filter (·.1 ≠ name) := by
    rw [drop]
    cases found : workspace.handle? name with
    | some handle => rfl
    | none =>
        rw [handle?, List.lookup_eq_none_iff] at found
        refine (filter_of_ne fun entry member same => ?_).symm
        simpa [same] using found entry member
  simp only [Holds, kept, List.mem_filter, decide_eq_true_eq, and_assoc]

/-- A step that uses a handle or changes the disk from outside leaves the locks alone. -/
theorem locks_step {step : WorkspaceStep} (uses : step.IsUse) :
    (workspace.step step).disk.locks = workspace.disk.locks := by
  cases step with
  | operate name operation =>
      simp only [Workspace.step]
      split
      · rw [finalState_onStore]
        exact (StoreOperation.outcome_sameHold uses _).1.locks
      · rfl
  | transfer name operation =>
      simp only [Workspace.step]
      split
      · exact (OpenFile.sameHold_outcome operation _).locks
      · rfl
  | writeFile path bytes => exact locks_onDisk (Disk.locks_writeFile path bytes)
  | deleteFile path => exact locks_onDisk (Disk.locks_deleteFile path)
  | makeDirectory path => exact locks_onDisk (Disk.locks_makeDirectory path)
  | _ => exact uses.elim

/-- Whatever has happened in a workspace that began without handles, its locks exclude
one another. -/
theorem mutual_exclusion (nodes : List (List String × Node)) (files : Array SparseBytes)
    (steps : List WorkspaceStep) :
    MutualExclusion (runAll ⟨⟨nodes, files, []⟩, []⟩ steps) := by
  have start : Fits ⟨⟨nodes, files, []⟩, []⟩ :=
    ⟨List.nodup_nil, List.Perm.nil, List.nodup_nil⟩
  have fits := fits_runAll start steps
  generalize runAll ⟨⟨nodes, files, []⟩, []⟩ steps = workspace at fits
  have dropped := fun name => (fits_drop fits name).1
  constructor
  case holders => exact fits.length_holders_le
  case taken =>
    intro number
    rw [← mem_locks_iff fits number, Disk.isLocked, List.contains_iff_mem]
  case openFile_locked =>
    intro name path mode
    rw [openFile_locked_iff, FileHandle.openPath_locked_iff]
    simp only [mem_locks_iff (dropped name)]
  case openFile_opened =>
    intro name path mode file after opened
    rcases openFile_opened fits (FileHandle.acquires_openPath path mode) opened with
      ⟨added, disk, ran⟩
    rw [(FileHandle.openPath_ok ran).1] at added
    exact ⟨added, FileHandle.openFile_of_openPath ran⟩
  case openFile_failed =>
    intro name path mode failure after
    exact openFile_failed (FileHandle.acquires_openPath path mode)
  case openWithParents_locked =>
    intro name path after failed
    rcases openFile_locked_iff.mp ⟨after, failed⟩ with ⟨disk, refused⟩
    exact FileHandle.openWithParents_ne_locked path _ disk refused
  case openWithParents_opened =>
    intro name path file after opened
    rcases openFile_opened fits (FileHandle.acquires_openWithParents path) opened with
      ⟨added, disk, ran⟩
    rwa [FileHandle.openWithParents_unlocked ran] at added
  case openWithParents_failed =>
    intro name path failure after
    exact openFile_failed (FileHandle.acquires_openWithParents path)
  case openStore_locked =>
    intro name path config
    rw [openStore_locked_iff, Store.openPath_locked_iff]
    simp only [mem_locks_iff (dropped name)]
  case openStore_opened =>
    intro name path config after opened
    rcases openStore_opened fits opened with ⟨store, isOpen, added, disk, ran⟩
    exact ⟨store, isOpen, added, Store.openFile_of_openStore ran⟩
  case openStore_failed =>
    intro name path config failure after
    exact openStore_failed
  case close =>
    intro name store found
    exact onStore_close fits found
  case drop => exact holds_drop_iff
  case use =>
    intro step uses number
    rw [← mem_locks_iff (fits_step fits step), ← mem_locks_iff fits, locks_step uses]

end Workspace

end PackedRecords
