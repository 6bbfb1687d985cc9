import PackedRecords.Device.Error
import PackedRecords.Disk.Path
import PackedRecords.Disk.SparseBytes

/-! # A disk

Directories and files below one root. A file has a number of its own: an open file
goes on working when its name is deleted, and a lock belongs to the file, not to the
name. At most one holder has a file locked; `locks` lists the files that are.
-/

namespace PackedRecords

/-- What a name on the disk stands for. -/
inductive Node where
  | directory
  | file (number : Nat)
deriving DecidableEq, Inhabited

/-- Named directories and files, the contents of every file ever created, and the
locked files. The root itself has no entry. -/
structure Disk where
  nodes : List (List String × Node) := []
  files : Array SparseBytes := #[]
  locks : List Nat := []
deriving Inhabited

/-- What a path leads to before its last name is looked up: a directory that it only
steps through, or a name in an existing directory. `asDirectory` tells that the path
demands a directory of that name. -/
inductive Place where
  | directory
  | name (names : List String) (asDirectory : Bool)
deriving DecidableEq

abbrev DiskM := EStateM SystemError Disk

namespace Disk

/-- The entry with exactly these names. -/
def node? (disk : Disk) (names : List String) : Option Node :=
  disk.nodes.lookup names

def nameLimit : Nat := 255

def pathLimit : Nat := 4095

/-- Looks up an entry by its names, the last of which must not be too long. -/
def find (disk : Disk) (names : List String) : Except SystemError (Option Node) :=
  if nameLimit < (names.getLastD "").utf8ByteSize then .error .nameTooLong
  else .ok (disk.node? names)

/-- Follows the pieces of a path from the directory `here`. -/
def follow (disk : Disk) (here : List String) : List String → Except SystemError Place
  | [] => .ok .directory
  | piece :: rest =>
      if piece = "" ∨ piece = "." then disk.follow here rest
      else if piece = ".." then disk.follow here.dropLast rest
      else if rest.all (· = "") then .ok (.name (here ++ [piece]) !rest.isEmpty)
      else
        match disk.find (here ++ [piece]) with
        | .ok (some .directory) => disk.follow (here ++ [piece]) rest
        | .ok (some (.file _)) => .error .notADirectory
        | .ok none => .error .notFound
        | .error reason => .error reason

/-- What a path leads to; the empty path leads nowhere. -/
def locate (disk : Disk) (path : Path) : Except SystemError Place :=
  if path.text.contains (Char.ofNat 0) then .error .nulInPath
  else if pathLimit < path.text.utf8ByteSize then .error .nameTooLong
  else if path.text = "" then .error .notFound
  else disk.follow [] path.pieces

def nodeAt (disk : Disk) (path : Path) : Except SystemError Node := do
  match ← disk.locate path with
  | .directory => return .directory
  | .name names asDirectory =>
      match ← disk.find names with
      | none => throw .notFound
      | some .directory => return .directory
      | some (.file number) =>
          if asDirectory then throw .notADirectory else return .file number

def ask {α : Type} (question : Disk → Except SystemError α) : DiskM α := fun disk =>
  match question disk with
  | .ok answer => .ok answer disk
  | .error reason => .error reason disk

def contents (disk : Disk) (number : Nat) : SparseBytes :=
  disk.files.getD number (.ofByteArray ByteArray.empty)

def modify (disk : Disk) (number : Nat) (change : SparseBytes → SparseBytes) : Disk :=
  match disk with
  | ⟨nodes, files, locks⟩ => ⟨nodes, files.modify number change, locks⟩

def addFile (names : List String) : DiskM Nat := fun disk =>
  let number := disk.files.size
  .ok number { disk with
    nodes := disk.nodes ++ [(names, .file number)]
    files := disk.files.push (.ofByteArray ByteArray.empty) }

/-- The number of the file at a path, which is created if that is asked for. Nothing
is looked up if a file is to be created at a path that demands a directory. -/
def openFile (path : Path) (create : Bool) : DiskM Nat := do
  match ← ask (locate · path) with
  | .directory => throw .isADirectory
  | .name names asDirectory =>
      if create && asDirectory then throw .isADirectory
      match ← ask (find · names) with
      | some .directory => throw .isADirectory
      | some (.file number) =>
          if asDirectory then throw .notADirectory else return number
      | none => if create then addFile names else throw .notFound

def makeDirectory (path : Path) : DiskM Unit := do
  match ← ask (locate · path) with
  | .directory => throw .alreadyExists
  | .name names _ =>
      match ← ask (find · names) with
      | some _ => throw .alreadyExists
      | none =>
          modifyGet fun disk =>
            ((), { disk with nodes := disk.nodes ++ [(names, .directory)] })

def isDirectory (disk : Disk) (path : Path) : Bool :=
  match disk.nodeAt path with
  | .ok .directory => true
  | _ => false

/-- Creates a directory where there is not one already. -/
def ensureDirectory (path : Path) : DiskM Unit := fun disk =>
  match makeDirectory path disk with
  | .ok _ disk => .ok () disk
  | .error reason disk =>
      if disk.isDirectory path then .ok () disk else .error reason disk

/-- Creates a directory and those above it that are missing. `depth` bounds the number
of paths above the directory. -/
def ensureDirectories : (depth : Nat) → Path → DiskM Unit
  | 0, path => ensureDirectory path
  | depth + 1, path => fun disk =>
      match ensureDirectory path disk, path.parent? with
      | .error .notFound disk, some parent =>
          if parent.text = "" then .error .notFound disk
          else
            match ensureDirectories depth parent disk with
            | .ok _ disk => ensureDirectory path disk
            | .error reason disk => .error reason disk
      | outcome, _ => outcome

/-- Creates the directories above a path that are missing. -/
def ensureParents (path : Path) : DiskM Unit :=
  match path.parent? with
  | none => pure ()
  | some parent =>
      if parent.text = "" then pure ()
      else ensureDirectories parent.components.length parent

def writeFile (path : Path) (bytes : ByteArray) : DiskM Unit := do
  let number ← openFile path true
  modifyGet fun disk => ((), disk.modify number fun _ => .ofByteArray bytes)

def contentsAt (disk : Disk) (path : Path) : Except SystemError ByteArray := do
  match ← disk.nodeAt path with
  | .directory => throw .isADirectory
  | .file number => return (disk.contents number).toByteArray

/-- Takes the name of a file off the disk; files already open are not affected. -/
def deleteFile (path : Path) : DiskM Unit := do
  match ← ask (nodeAt · path) with
  | .directory => throw .isADirectory
  | .file number =>
      modifyGet fun disk =>
        ((), { disk with nodes := disk.nodes.filter fun entry => entry.2 ≠ .file number })

def pathExists (disk : Disk) (path : Path) : Bool :=
  (disk.nodeAt path).isOk

def namedFiles (disk : Disk) : List (String × ByteArray) :=
  disk.nodes.filterMap fun
    | (names, .file number) => some (joinText '/' names, (disk.contents number).toByteArray)
    | (_, .directory) => none

def isLocked (disk : Disk) (number : Nat) : Bool :=
  disk.locks.contains number

def lock (disk : Disk) (number : Nat) : Disk :=
  { disk with locks := number :: disk.locks }

def unlock (disk : Disk) (number : Nat) : Disk :=
  { disk with locks := disk.locks.erase number }

end Disk

end PackedRecords
