import PackedRecords.Command.Error
import PackedRecords.Report.Summary
import PackedRecords.Report.Verification
import PackedRecords.Store.Medium
import PackedRecords.Text.Hex
import PackedRecords.Text.Utf8

/-! # Commands on a record file

Each command opens the file at a path, does one thing and closes the file again. What
it has found out is an answer; the text it prints is made from the answer.

Only `put` creates a missing file. `verify` reads the file without locking it; every
other command needs the lock.
-/

namespace PackedRecords

/-- A command on a record file. -/
inductive Command where
  | inspect (format : ReportFormat)
  | list (format : ReportFormat)
  | get (key : EntityId) (asHex : Bool)
  | put (key : EntityId) (payload : ByteArray)
  | remove (key : EntityId)
  | verify
deriving DecidableEq, Inhabited

/-- What a command has found out or done. -/
inductive Answer where
  | summary (format : ReportFormat) (summary : Summary)
  | listing (format : ReportFormat) (records : List RecordInfo)
  | payload (asHex : Bool) (bytes : ByteArray)
  | stored (key : EntityId) (length : Nat) (existed : Bool)
  | removed (key : EntityId) (existed : Bool)
  | verified (found : Verification)
deriving DecidableEq, Inhabited

namespace Answer

def text : Answer → String
  | summary format totals => totals.render format
  | listing format records => Listing.render format records
  | payload true bytes => Hex.ofBytes bytes ++ "\n"
  | payload false bytes => lossyText bytes ++ "\n"
  | stored key length existed =>
      (if existed then "Updated " else "Created ") ++ key.toText ++ " (" ++
        toString length ++ " bytes)\n"
  | removed key true => "Removed " ++ key.toText ++ "\n"
  | removed key false => "No record for " ++ key.toText ++ "\n"
  | verified found => found.toText

/-- The failure that an answer amounts to, if it does. -/
def failure? : Answer → Option CommandError
  | verified found => if found.passed then none else some .verificationFailed
  | _ => none

end Answer

abbrev CommandM := EStateM CommandError Disk

namespace Command

def config (create : Bool) : Config :=
  { createIfMissing := create, createParents := create, syncOnWrite := true }

/-- Runs an operation on the store in a file and closes the file again. -/
def onStore {α : Type} (path : Path) (create : Bool) (action : StoreM OpenFile α) :
    CommandM α := fun disk =>
  match Store.openPath (config create) path disk with
  | .error failure disk => .error (.cannotOpen path failure) disk
  | .ok store disk =>
      let run : StoreM OpenFile α := do
        let value ← action
        Store.close
        return value
      match run (store.withDevice ⟨disk, store.device⟩) with
      | .ok value store => .ok value store.dropped.disk
      | .error failure store => .error (.store failure) store.dropped.disk

/-- Runs an operation on a file that is neither created nor locked. -/
def onFile {α : Type} (path : Path) (action : DeviceM OpenFile α) : CommandM α :=
  fun disk =>
    match FileHandle.openPath path ⟨false, false⟩ disk with
    | .error failure disk => .error (.device failure) disk
    | .ok handle disk =>
        match action ⟨disk, handle⟩ with
        | .ok value file => .ok value file.release.disk
        | .error failure file => .error (.device failure) file.release.disk

def scanWithSize {δ : Type} [ByteDevice δ] : StoreM δ (List RecordInfo × Nat) := do
  let records ← Store.scan
  return (records, ← Store.fileSize)

def putNoting {δ : Type} [ByteDevice δ] (key : EntityId) (payload : ByteArray) :
    StoreM δ Bool := do
  let existed ← Store.contains key
  Store.put key payload
  return existed

def run (path : Path) : Command → CommandM Answer
  | inspect format => do
      let (records, fileSize) ← onStore path false scanWithSize
      return .summary format (.ofRecords path fileSize records)
  | list format => do
      return .listing format (← onStore path false Store.scan)
  | get key asHex => do
      match ← onStore path false (Store.get key) with
      | some bytes => return .payload asHex bytes
      | none => throw (.noRecord key)
  | put key payload => do
      let existed ← onStore path true (putNoting key payload)
      return .stored key payload.size existed
  | remove key => do
      return .removed key (← onStore path false (Store.remove key))
  | verify => do
      return .verified (← onFile path verifyRecords)

def heading (path : Path) : Command → String
  | verify => "Verifying record file at " ++ quoted path.text ++ "\n\n"
  | _ => ""

end Command

/-- What a command has printed, and how it has failed if it has. -/
structure Transcript where
  output : String
  failure? : Option CommandError
deriving DecidableEq, Inhabited

namespace Command

def perform (path : Path) (command : Command) (disk : Disk) : Transcript × Disk :=
  match command.run path disk with
  | .ok answer disk => (⟨command.heading path ++ answer.text, answer.failure?⟩, disk)
  | .error failure disk => (⟨command.heading path, some failure⟩, disk)

end Command

end PackedRecords
