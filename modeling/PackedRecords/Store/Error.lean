import PackedRecords.Device.Error
import PackedRecords.Record.Header

/-! # What a record store can refuse -/

namespace PackedRecords

/-- What opening a store and its operations report. -/
inductive StoreError where
  /-- The device below failed. -/
  | device (failure : DeviceError)
  /-- Parent directories could not be created. -/
  | io (failure : IoError)
  /-- A payload is longer than the store accepts. -/
  | payloadTooLarge (length limit : Nat)
  /-- The bytes at an offset are not a record. -/
  | corruptRecord (offset : Nat) (fault : Corruption)
  /-- A value could not be encoded or decoded. -/
  | codec (reason : String)
  /-- Another handle holds the lock on the file. -/
  | locked
  /-- The store has been closed. -/
  | closed
deriving DecidableEq, Inhabited

namespace StoreError

/-- The wording for bytes that are not a record, given what is wrong with them. -/
def corruptRecordText (offset : Nat) (fault : String) : String :=
  "corrupt record at offset " ++ toString offset ++ ": " ++ fault

def message : StoreError → String
  | device failure => "storage error: " ++ failure.message
  | io failure => "I/O error: " ++ failure.message
  | payloadTooLarge length limit =>
      "payload too large: " ++ toString length ++ " bytes exceeds maximum of " ++
        toString limit
  | corruptRecord offset fault => corruptRecordText offset fault.message
  | codec reason => "codec error: " ++ reason
  | locked => "store locked: another handle has exclusive access"
  | closed => "store is closed"

def debugText : StoreError → String
  | device failure => "Storage(" ++ failure.debugText ++ ")"
  | io failure => "Io(" ++ failure.debugText ++ ")"
  | payloadTooLarge length limit => fieldsText "PayloadTooLarge" [
      ("len", toString length), ("max", toString limit)]
  | corruptRecord offset fault => fieldsText "CorruptRecord" [
      ("offset", toString offset), ("message", quoted fault.message)]
  | codec reason => fieldsText "Codec" [("message", quoted reason)]
  | locked => "StoreLocked"
  | closed => "StoreClosed"

def isSizeViolation : StoreError → Bool
  | payloadTooLarge .. => true
  | _ => false

/-- What a failure to open the device below means for the store: a lock held by
another handle is the store's own condition. -/
def ofOpening : DeviceError → StoreError
  | .locked => locked
  | failure => device failure

end StoreError

end PackedRecords
