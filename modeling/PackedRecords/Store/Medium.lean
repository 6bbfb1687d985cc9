import PackedRecords.Device.Faulty
import PackedRecords.Device.Memory
import PackedRecords.Device.Unbuffered
import PackedRecords.Disk.OpenFile
import PackedRecords.Store.Opening
import PackedRecords.Text.Quoted

/-! # Where stores live

A medium is a device that outlives the store on it: after the store has been dropped
another one can be opened on what it left behind. For a file that means opening its
path again.
-/

namespace PackedRecords

namespace Store

/-- The same store on another view of its device. -/
def withDevice {δ ε : Type} (store : Store δ) (device : ε) : Store ε :=
  match store with
  | ⟨_, index, config, stats, isOpen⟩ => ⟨device, index, config, stats, isOpen⟩

def openHandle (config : Config) (path : Path) : EStateM StoreError Disk FileHandle :=
  fun disk =>
    let prepared := if config.createParents then Disk.ensureParents path disk else .ok () disk
    match prepared with
    | .error reason disk => .error (.io (.system reason)) disk
    | .ok _ disk =>
        match FileHandle.openPath path ⟨config.createIfMissing, config.lockFile⟩ disk with
        | .ok handle disk => .ok handle disk
        | .error failure disk => .error (.ofOpening failure) disk

def openPath (config : Config) (path : Path) :
    EStateM StoreError Disk (Store FileHandle) := fun disk =>
  match openHandle config path disk with
  | .error failure disk => .error failure disk
  | .ok handle disk =>
      match openDevice config (⟨disk, handle⟩ : OpenFile) with
      | .ok store => .ok (store.withDevice store.device.handle) store.device.disk
      | .error (failure, file) => .error failure file.disk

end Store

/-- A device on which stores can be opened one after another. -/
class Medium (δ : Type) extends ByteDevice δ where
  /-- Opens a store on what is there, or hands the device back with the reason. -/
  openStore : Config → δ → Except (StoreError × δ) (Store δ)
  /-- The device of a first user after a second user of the same medium is gone. -/
  afterGuest : δ → δ → δ
  /-- The path of the file the device is, if it is one. -/
  path? : δ → Option Path
  /-- The number of bytes a user of the device knows of. -/
  knownSize : δ → Nat
  /-- All bytes, unless there is nothing to hold them. -/
  contents : δ → Option ByteArray
  /-- Changes all bytes from outside. -/
  alter : (ByteArray → ByteArray) → δ → δ
  /-- Limits how many more calls of some kinds succeed, where that is possible. -/
  setBudgets : Budgets → δ → δ

instance : Medium Memory where
  openStore := Store.openDevice
  afterGuest _ guest := guest
  path? _ := none
  knownSize memory := memory.bytes.size
  contents memory := some memory.bytes
  alter change memory := ⟨change memory.bytes⟩
  setBudgets _ memory := memory

instance {δ : Type} [Medium δ] : Medium (Faulty δ) where
  openStore := Store.openDevice
  afterGuest _ guest := guest
  path? faulty := Medium.path? faulty.device
  knownSize faulty := Medium.knownSize faulty.device
  contents faulty := Medium.contents faulty.device
  alter change faulty := { faulty with device := Medium.alter change faulty.device }
  setBudgets budgets faulty := { faulty with budgets }

instance {δ : Type} [Medium δ] : Medium (Unbuffered δ) where
  openStore := Store.openDevice
  afterGuest _ guest := guest
  path? wrapped := Medium.path? wrapped.device
  knownSize wrapped := Medium.knownSize wrapped.device
  contents wrapped := Medium.contents wrapped.device
  alter change wrapped := ⟨Medium.alter change wrapped.device⟩
  setBudgets budgets wrapped := ⟨Medium.setBudgets budgets wrapped.device⟩

namespace OpenFile

/-- The file at a path before anyone has opened it. -/
def unopened (disk : Disk) (path : Path) : OpenFile :=
  ⟨disk, ⟨path, 0, 0, false⟩⟩

/-- The file on what an attempt to open it again has made of the disk. Nobody holds it. -/
def unheld (file : OpenFile) (disk : Disk) : OpenFile :=
  ⟨disk, { file.handle with locked := false }⟩

def openStore (config : Config) (file : OpenFile) :
    Except (StoreError × OpenFile) (Store OpenFile) :=
  match Store.openPath config file.handle.path file.disk with
  | .ok store disk => .ok (store.withDevice ⟨disk, store.device⟩)
  | .error failure disk => .error (failure, file.unheld disk)

def alter (change : ByteArray → ByteArray) (file : OpenFile) : OpenFile :=
  let bytes := (file.disk.contentsAt file.handle.path).toOption.getD ByteArray.empty
  match Disk.writeFile file.handle.path (change bytes) file.disk with
  | .ok _ disk | .error _ disk => { file with disk }

end OpenFile

instance : Medium OpenFile where
  openStore := OpenFile.openStore
  afterGuest file guest := { file with disk := guest.disk }
  path? file := some file.handle.path
  knownSize file := file.handle.size
  contents file := (file.disk.contentsAt file.handle.path).toOption
  alter := OpenFile.alter
  setBudgets _ file := file

/-- A short description of a store: the path of its file and whether it is open. -/
def Store.debugText {δ : Type} [Medium δ] (store : Store δ) : String :=
  let path := match Medium.path? store.device with
    | none => "None"
    | some path => "Some(" ++ quoted path.text ++ ")"
  "RecordStore \x7b path: " ++ path ++ ", open: " ++ toString store.isOpen ++
    ", .. \x7d"

/-- A medium and the store open on it, if there is one. -/
inductive Session (δ : Type) where
  | opened (store : Store δ)
  | vacant (device : δ)

namespace Session

variable {δ α : Type} [Medium δ]

/-- The device, whether or not a store is open on it. -/
def device : Session δ → δ
  | opened store => store.device
  | vacant device => device

def onDevice (change : δ → δ) : Session δ → Session δ
  | opened store => opened (store.withDevice (change store.device))
  | vacant device => vacant (change device)

/-- Drops the store, if there is one. -/
def drop : Session δ → δ
  | opened store => store.dropped
  | vacant device => device

/-- Opens a store on a medium without one. -/
def start (config : Config) (device : δ) : Except StoreError Unit × Session δ :=
  match Medium.openStore config device with
  | .ok store => (.ok (), opened store)
  | .error (failure, device) => (.error failure, vacant device)

/-- Drops the store, if there is one, and opens another on what it left behind. -/
def reopen (config : Config) (session : Session δ) :
    Except StoreError Unit × Session δ :=
  start config session.drop

/-- Runs an operation of the open store; `none` if there is no store. -/
def run (action : StoreM δ α) : Session δ → Option (Except StoreError α) × Session δ
  | opened store =>
      match action store with
      | .ok value store => (some (.ok value), opened store)
      | .error failure store => (some (.error failure), opened store)
  | vacant device => (none, vacant device)

/-- Opens a second store beside the first, looks at it and drops it. -/
def visit (config : Config) (look : Store δ → α) (session : Session δ) :
    Except StoreError α × Session δ :=
  match Medium.openStore config session.device with
  | .ok guest =>
      (.ok (look guest), session.onDevice (Medium.afterGuest · guest.dropped))
  | .error (failure, guest) =>
      (.error failure, session.onDevice (Medium.afterGuest · guest))

end Session

end PackedRecords
