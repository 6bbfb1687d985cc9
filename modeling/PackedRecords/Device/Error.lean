import PackedRecords.Bytes
import PackedRecords.Text.Fields
import PackedRecords.Text.Quoted

/-! # What a byte device can refuse

`SystemError` is a refusal of the operating system, `IoError` any failed transfer,
and `DeviceError` what the operations of a byte device report. `message` is the
wording of a report for its reader, `debugText` the form that names its parts.
-/

namespace PackedRecords

/-- The refusals of the operating system that opening, reading and growing can meet. A
path that holds a NUL and a size beyond the range of sizes are refused before the system
is asked. -/
inductive SystemError where
  | notFound
  | alreadyExists
  | notADirectory
  | isADirectory
  | nameTooLong
  | nulInPath
  | sizeOutOfRange
deriving DecidableEq, Repr, Inhabited

namespace SystemError

/-- The number the system gives the refusal, if the refusal is the system's. -/
def code? : SystemError → Option Nat
  | notFound => some 2
  | alreadyExists => some 17
  | notADirectory => some 20
  | isADirectory => some 21
  | nameTooLong => some 36
  | nulInPath | sizeOutOfRange => none

def kindName : SystemError → String
  | notFound => "NotFound"
  | alreadyExists => "AlreadyExists"
  | notADirectory => "NotADirectory"
  | isADirectory => "IsADirectory"
  | nameTooLong => "InvalidFilename"
  | nulInPath | sizeOutOfRange => "InvalidInput"

def description : SystemError → String
  | notFound => "No such file or directory"
  | alreadyExists => "File exists"
  | notADirectory => "Not a directory"
  | isADirectory => "Is a directory"
  | nameTooLong => "File name too long"
  | nulInPath => "file name contained an unexpected NUL byte"
  | sizeOutOfRange => "out of range integral type conversion attempted"

/-- The wording of the refusal, with its number. -/
def message (reason : SystemError) : String :=
  match reason.code? with
  | some code => reason.description ++ " (os error " ++ toString code ++ ")"
  | none => reason.description

def debugText (reason : SystemError) : String :=
  let parts := [("kind", reason.kindName), ("message", quoted reason.description)]
  match reason.code? with
  | some code => fieldsText "Os" (("code", toString code) :: parts)
  | none => fieldsText "Error" parts

end SystemError

/-- A transfer of bytes that failed. A read that met the end of the medium too
early carries the bytes that had already arrived. -/
inductive IoError where
  | system (reason : SystemError)
  | unexpectedEnd (arrived : ByteArray)
  | other (description : String)
deriving DecidableEq, Inhabited

namespace IoError

def kindName : IoError → String
  | system reason => reason.kindName
  | unexpectedEnd _ => "UnexpectedEof"
  | other _ => "Other"

def message : IoError → String
  | system reason => reason.message
  | unexpectedEnd _ => "failed to fill whole buffer"
  | other description => description

def debugText : IoError → String
  | system reason => reason.debugText
  | unexpectedEnd arrived => fieldsText "Error" [
      ("kind", (unexpectedEnd arrived).kindName),
      ("message", quoted (unexpectedEnd arrived).message)]
  | other description => fieldsText "Custom" [
      ("kind", (other description).kindName), ("error", quoted description)]

end IoError

/-- What the operations of a byte device report. -/
inductive DeviceError where
  | io (failure : IoError)
  | readPastEnd (offset length size : Nat)
  | writePastEnd (offset size : Nat)
  | invalidTruncate (newSize size : Nat)
  | locked
deriving DecidableEq, Inhabited

namespace DeviceError

def message : DeviceError → String
  | io failure => "I/O error: " ++ failure.message
  | readPastEnd offset length size =>
      "read beyond end of storage: offset " ++ toString offset ++ ", len " ++
        toString length ++ ", size " ++ toString size
  | writePastEnd offset size =>
      "write beyond end of storage: offset " ++ toString offset ++ ", size " ++
        toString size
  | invalidTruncate newSize size =>
      "cannot truncate to size " ++ toString newSize ++
        " which is greater than current size " ++ toString size
  | locked => "storage locked: another handle has exclusive access"

def debugText : DeviceError → String
  | io failure => "Io(" ++ failure.debugText ++ ")"
  | readPastEnd offset length size => fieldsText "ReadPastEnd" [
      ("offset", toString offset), ("len", toString length), ("size", toString size)]
  | writePastEnd offset size => fieldsText "WritePastEnd" [
      ("offset", toString offset), ("size", toString size)]
  | invalidTruncate newSize size => fieldsText "InvalidTruncate" [
      ("new_size", toString newSize), ("size", toString size)]
  | locked => "Locked"

end DeviceError

end PackedRecords
