import PackedRecords.Device.Basic

/-! # Devices that fail on demand

`Faulty δ` serves each kind of call only as long as its budget lasts. A call whose
budget is used up fails before it does anything, so the device below keeps its
contents; a call without a budget always goes through.
-/

namespace PackedRecords

/-- The kinds of call a byte device serves. -/
inductive DeviceCall where
  | readAt
  | readInto
  | writeAt
  | append
  | extend
  | truncate
  | size
  | flush
  | sync
deriving DecidableEq, Repr, Inhabited

namespace DeviceCall

def all : List DeviceCall :=
  [readAt, readInto, writeAt, append, extend, truncate, size, flush, sync]

def name : DeviceCall → String
  | readAt => "read_at"
  | readInto => "read_into"
  | writeAt => "write_at"
  | append => "append"
  | extend => "extend"
  | truncate => "truncate"
  | size => "size"
  | flush => "flush"
  | sync => "sync"

def ofName? (text : String) : Option DeviceCall :=
  all.find? fun call => call.name = text

theorem ofName?_name (call : DeviceCall) : ofName? call.name = some call := by
  cases call <;> decide

end DeviceCall

abbrev Budgets := List (DeviceCall × Nat)

namespace Budgets

/-- What is left after one call, or `none` if the call is refused. -/
def spend? (call : DeviceCall) : Budgets → Option Budgets
  | [] => some []
  | (other, left) :: rest =>
      if other = call then
        match left with
        | 0 => none
        | left + 1 => some ((other, left) :: rest)
      else
        (spend? call rest).map ((other, left) :: ·)

end Budgets

/-- A device that refuses calls once their budget is used up. -/
structure Faulty (δ : Type) where
  device : δ
  budgets : Budgets
deriving DecidableEq, Inhabited

namespace Faulty

variable {δ α : Type}

def refusal (call : DeviceCall) : DeviceError :=
  .io (.other ("injected " ++ call.name ++ " failure"))

/-- Runs an operation of the underlying device if its budget allows it. -/
def lift (call : DeviceCall) (action : DeviceM δ α) : DeviceM (Faulty δ) α :=
  fun ⟨device, budgets⟩ =>
    match budgets.spend? call with
    | none => .error (refusal call) ⟨device, budgets⟩
    | some budgets =>
        match action device with
        | .ok value device => .ok value ⟨device, budgets⟩
        | .error failure device => .error failure ⟨device, budgets⟩

instance [ByteDevice δ] : ByteDevice (Faulty δ) where
  readAt offset length := lift .readAt (ByteDevice.readAt offset length)
  readInto offset length := lift .readInto (ByteDevice.readInto offset length)
  writeAt offset data := lift .writeAt (ByteDevice.writeAt offset data)
  append data := lift .append (ByteDevice.append data)
  extend additional := lift .extend (ByteDevice.extend additional)
  truncate newSize := lift .truncate (ByteDevice.truncate newSize)
  size := lift .size ByteDevice.size
  flush := lift .flush ByteDevice.flush
  sync := lift .sync ByteDevice.sync
  release faulty := ⟨ByteDevice.release faulty.device, faulty.budgets⟩

end Faulty

end PackedRecords
