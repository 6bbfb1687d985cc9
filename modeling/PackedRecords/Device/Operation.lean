import PackedRecords.Device.Basic

/-! # Operations of a byte device

The operations as values, so that sequences of them can be run on one device after
another and their answers compared.
-/

namespace PackedRecords

/-- One operation of a byte device. -/
inductive DeviceOperation where
  | readAt (offset length : Nat)
  /-- A read into a buffer that the caller has filled already. -/
  | readInto (offset : Nat) (buffer : ByteArray)
  | writeAt (offset : Nat) (data : ByteArray)
  | append (data : ByteArray)
  | extend (additional : Nat)
  | truncate (newSize : Nat)
  | size
  | flush
  | sync
deriving DecidableEq, Inhabited

/-- What an operation of a byte device answers. -/
inductive DeviceAnswer where
  | done
  | bytes (bytes : ByteArray)
  | number (value : Nat)
deriving DecidableEq, Inhabited

namespace DeviceOperation

variable {δ : Type} [ByteDevice δ]

def run : DeviceOperation → DeviceM δ DeviceAnswer
  | readAt offset length => return .bytes (← ByteDevice.readAt offset length)
  | readInto offset buffer => return .bytes (← ByteDevice.readInto offset buffer.size)
  | writeAt offset data => do
      ByteDevice.writeAt offset data
      return .done
  | append data => return .number (← ByteDevice.append data)
  | extend additional => do
      ByteDevice.extend additional
      return .done
  | truncate newSize => do
      ByteDevice.truncate newSize
      return .done
  | size => return .number (← ByteDevice.size)
  | flush => do
      ByteDevice.flush
      return .done
  | sync => do
      ByteDevice.sync
      return .done

/-- An answer or a failure, and the device afterwards. -/
def outcome (operation : DeviceOperation) (device : δ) :
    Except DeviceError DeviceAnswer × δ :=
  match operation.run device with
  | .ok answer device => (.ok answer, device)
  | .error failure device => (.error failure, device)

/-- The buffer of a read into it, given the outcome of the read. -/
def bufferOf (buffer : ByteArray) : Except DeviceError DeviceAnswer → ByteArray
  | .ok (.bytes bytes) => bytes
  | .error failure => bufferAfter buffer (.error failure)
  | .ok _ => buffer

/-- Runs operations one after another; a failure does not keep the next from being
tried. -/
def runAll (operations : List DeviceOperation) (device : δ) :
    List (Except DeviceError DeviceAnswer) × δ :=
  match operations with
  | [] => ([], device)
  | operation :: rest =>
      let (answer, device) := operation.outcome device
      let (answers, device) := runAll rest device
      (answer :: answers, device)

end DeviceOperation

end PackedRecords
