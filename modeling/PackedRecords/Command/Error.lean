import PackedRecords.Disk.Path
import PackedRecords.EntityId.Text
import PackedRecords.Store.Error

/-! # Why a command fails -/

namespace PackedRecords

/-- The reasons for a command to end without success. -/
inductive CommandError where
  /-- The record file cannot be opened. -/
  | cannotOpen (path : Path) (failure : StoreError)
  /-- The key has no record. -/
  | noRecord (key : EntityId)
  /-- The record file has faults. -/
  | verificationFailed
  /-- The command needs a record file and none was named. -/
  | noPath (command : String)
  /-- The file with the payload cannot be read. -/
  | unreadablePayload (reason : SystemError)
  | store (failure : StoreError)
  | device (failure : DeviceError)
deriving DecidableEq, Inhabited

namespace CommandError

def message : CommandError → String
  | cannotOpen path failure => "cannot open " ++ path.text ++ ": " ++ failure.message
  | noRecord key => "no record for " ++ key.toText
  | verificationFailed => "Verification failed"
  | noPath command => "Record file path required for " ++ command
  | unreadablePayload reason => reason.message
  | store failure => failure.message
  | device failure => failure.message

/-- The reason with its parts named; a reason that is only a sentence is quoted. -/
def debugText : CommandError → String
  | unreadablePayload reason => reason.debugText
  | store failure => failure.debugText
  | device failure => failure.debugText
  | sentence => quoted sentence.message

end CommandError

end PackedRecords
