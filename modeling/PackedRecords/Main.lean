import PackedRecords.Command.Program

/-! # Running the program on the system's files

The files that a command line names are copied onto a disk, the program runs on that
disk, and what it has changed is copied back. The record file stays locked meanwhile
unless the command does without the lock.
-/

namespace PackedRecords.SystemFiles

/-- The result of an action, unless the system refuses it. -/
def attempt {α : Type} (action : IO α) : IO (Option α) := do
  try
    return some (← action)
  catch _ =>
    return none

/-- The disk after a computation, whether or not it was refused. -/
def after {α : Type} (action : DiskM α) (disk : Disk) : Disk :=
  match action disk with
  | .ok _ disk | .error _ disk => disk

def isDirectory (path : Path) : IO Bool := do
  return (← attempt (IO.FS.realPath (path.text ++ "/."))).isSome

def copyIn (disk : Disk) (path : Path) : IO Disk := do
  if ← isDirectory path then
    return after (Disk.makeDirectory path) disk
  match ← attempt (IO.FS.readBinFile path.text) with
  | some bytes => return after (Disk.writeFile path bytes) disk
  | none => return disk

def copyWay (disk : Disk) (path : Path) : IO Disk :=
  path.normal.withAncestors.reverse.foldlM copyIn disk

def pathsOf (request : Request) : List Path :=
  match request.task with
  | .put _ (.file payload) => payload :: request.path?.toList
  | _ => request.path?.toList

def needsLock : Task → Bool
  | .verify | .version => false
  | _ => true

/-- Locks the record file of a request, if it exists. Another holder of the lock is
noted on the disk. -/
def lockRecords (request : Request) (disk : Disk) :
    IO (Option IO.FS.Handle × Disk) := do
  match request.path?, needsLock request.task with
  | some path, true =>
      match disk.nodeAt path with
      | .ok (.file number) =>
          match ← attempt (IO.FS.Handle.mk path.text .readWrite) with
          | none => return (none, disk)
          | some handle =>
              if ← handle.tryLock true then return (some handle, disk)
              else return (none, disk.lock number)
      | _ => return (none, disk)
  | _, _ => return (none, disk)

/-- Copies the file at a path back if it has changed, and the directories above it. -/
def copyOut (path : Path) (before changed : Disk) : IO Unit := do
  if let some parent := path.parent? then
    if parent.text ≠ "" ∧ changed.isDirectory parent ∧ !before.isDirectory parent then
      IO.FS.createDirAll parent.text
  match changed.contentsAt path with
  | .ok bytes =>
      if (before.contentsAt path).toOption ≠ some bytes then
        IO.FS.writeBinFile path.text bytes
  | .error _ => return

def runRequest (request : Request) (arguments : List String) : IO RunResult := do
  let copied ← (pathsOf request).foldlM copyWay {}
  let (handle?, disk) ← lockRecords request copied
  let (result, changed) := Program.run arguments disk
  if let some path := request.path? then
    copyOut path disk changed
  if let some handle := handle? then
    handle.unlock
  return result

def run (arguments : List String) : IO RunResult :=
  match Request.ofArguments arguments with
  | .ok request => runRequest request arguments
  | .error _ => return (Program.run arguments {}).1

end PackedRecords.SystemFiles

def main (arguments : List String) : IO UInt32 := do
  let result ← PackedRecords.SystemFiles.run arguments
  IO.print result.output
  IO.eprint result.errors
  return UInt32.ofNat result.code
