import PackedRecords.Store.Basic

/-! # Operations of a record store

The operations as values, so that histories of a store can be run and compared with
other accounts of what a store does.
-/

namespace PackedRecords

/-- One operation of a record store. -/
inductive StoreOperation where
  | put (key : EntityId) (payload : ByteArray)
  | get (key : EntityId)
  | remove (key : EntityId)
  | contains (key : EntityId)
  | offsetOf (key : EntityId)
  | length
  | isEmpty
  | keys
  | fileSize
  | scan
  | flush
  | sync
  | close
deriving DecidableEq, Inhabited

/-- What an operation of a record store answers. -/
inductive StoreAnswer where
  | done
  | flag (holds : Bool)
  | number (value : Nat)
  | payload (found : Option ByteArray)
  | offset (found : Option Nat)
  | keys (keys : List EntityId)
  | records (records : List RecordInfo)
deriving DecidableEq, Inhabited

namespace StoreOperation

variable {δ : Type} [ByteDevice δ]

def run : StoreOperation → StoreM δ StoreAnswer
  | put key payload => do
      Store.put key payload
      return .done
  | get key => return .payload (← Store.get key)
  | remove key => return .flag (← Store.remove key)
  | contains key => return .flag (← Store.contains key)
  | offsetOf key => return .offset (← Store.offsetOf key)
  | length => return .number (← Store.length)
  | isEmpty => return .flag (← Store.isEmpty)
  | keys => return .keys (← Store.keys)
  | fileSize => return .number (← Store.fileSize)
  | scan => return .records (← Store.scan)
  | flush => do
      Store.flush
      return .done
  | sync => do
      Store.sync
      return .done
  | close => do
      Store.close
      return .done

/-- An answer or a failure, and the store afterwards. -/
def outcome (operation : StoreOperation) (store : Store δ) :
    Except StoreError StoreAnswer × Store δ :=
  match operation.run store with
  | .ok answer store => (.ok answer, store)
  | .error failure store => (.error failure, store)

/-- Runs operations one after another; a failure does not keep the next from being
tried. -/
def runAll (operations : List StoreOperation) (store : Store δ) :
    List (Except StoreError StoreAnswer) × Store δ :=
  match operations with
  | [] => ([], store)
  | operation :: rest =>
      let (answer, store) := operation.outcome store
      let (answers, store) := runAll rest store
      (answer :: answers, store)

end StoreOperation

end PackedRecords
