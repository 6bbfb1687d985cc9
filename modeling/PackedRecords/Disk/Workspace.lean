import PackedRecords.Store.Medium

/-! # Named handles on one disk

A workspace holds stores and files that are open at the same time on one disk, each
under a name. Opening under a name that is in use drops the old handle first.
-/

namespace PackedRecords

/-- A store or a file that is open. -/
inductive Handle where
  | store (store : Store FileHandle)
  | file (file : FileHandle)

namespace Handle

/-- Whether the handle holds the lock on its file. A closed store holds none. -/
def locked : Handle → Bool
  | .store opened => opened.isOpen && opened.device.locked
  | .file opened => opened.locked

def number : Handle → Nat
  | .store opened => opened.device.number
  | .file opened => opened.number

/-- What the disk is like when the handle has been dropped. -/
def drop (disk : Disk) : Handle → Disk
  | .store opened => (opened.withDevice (⟨disk, opened.device⟩ : OpenFile)).dropped.disk
  | .file opened => opened.release disk

end Handle

/-- A disk and the handles on it. -/
structure Workspace where
  disk : Disk := {}
  handles : List (String × Handle) := []
deriving Inhabited

namespace Workspace

def handle? (workspace : Workspace) (name : String) : Option Handle :=
  workspace.handles.lookup name

def keep (name : String) (handle : Handle) (workspace : Workspace) : Workspace :=
  { workspace with handles := (name, handle) :: workspace.handles }

def replace (name : String) (handle : Handle) (workspace : Workspace) : Workspace :=
  { workspace with
    handles := workspace.handles.map fun entry =>
      if entry.1 = name then (name, handle) else entry }

def drop (name : String) (workspace : Workspace) : Workspace :=
  match workspace.handle? name with
  | none => workspace
  | some handle =>
      ⟨handle.drop workspace.disk, workspace.handles.filter (·.1 ≠ name)⟩

def openStore (name : String) (path : Path) (config : Config) :
    EStateM StoreError Workspace Unit := fun workspace =>
  let workspace := workspace.drop name
  match Store.openPath config path workspace.disk with
  | .ok store disk => .ok () (keep name (.store store) { workspace with disk })
  | .error failure disk => .error failure { workspace with disk }

/-- Opens a file under a name, in the given way. -/
def openFile (name : String) (opening : FileM FileHandle) :
    EStateM DeviceError Workspace FileHandle := fun workspace =>
  let workspace := workspace.drop name
  match opening workspace.disk with
  | .ok file disk => .ok file (keep name (.file file) { workspace with disk })
  | .error failure disk => .error failure { workspace with disk }

def onStore {α : Type} (name : String) (store : Store FileHandle)
    (action : StoreM OpenFile α) : EStateM StoreError Workspace α := fun workspace =>
  match action (store.withDevice ⟨workspace.disk, store.device⟩) with
  | .ok value store =>
      .ok value (replace name (.store (store.withDevice store.device.handle))
        { workspace with disk := store.device.disk })
  | .error failure store =>
      .error failure (replace name (.store (store.withDevice store.device.handle))
        { workspace with disk := store.device.disk })

def onOpenFile {α : Type} (name : String) (file : FileHandle)
    (action : OpenFile → α × OpenFile) (workspace : Workspace) : α × Workspace :=
  let (value, file) := action ⟨workspace.disk, file⟩
  (value, replace name (.file file.handle) { workspace with disk := file.disk })

def onDisk {α : Type} (action : DiskM α) : EStateM SystemError Workspace α :=
  fun workspace =>
    match action workspace.disk with
    | .ok value disk => .ok value { workspace with disk }
    | .error reason disk => .error reason { workspace with disk }

end Workspace

end PackedRecords
