import PackedRecords.Device.Basic

/-! # Devices that remember their calls

`Traced δ` passes every call on to the device below and keeps a list of the calls it
has got, in order and whether or not they succeeded. Of a write it keeps only how many
bytes were written.
-/

namespace PackedRecords

/-- A call that a device has got. -/
inductive TracedCall where
  | readAt (offset length : Nat)
  | readInto (offset length : Nat)
  | writeAt (offset length : Nat)
  | append (length : Nat)
  | extend (additional : Nat)
  | truncate (newSize : Nat)
  | size
  | flush
  | sync
deriving DecidableEq, Inhabited

/-- A device together with the calls it has got. -/
structure Traced (δ : Type) where
  device : δ
  calls : List TracedCall
deriving DecidableEq, Inhabited

namespace Traced

variable {δ α : Type}

def lift (call : TracedCall) (action : DeviceM δ α) : DeviceM (Traced δ) α :=
  fun ⟨device, calls⟩ =>
    match action device with
    | .ok value device => .ok value ⟨device, calls ++ [call]⟩
    | .error failure device => .error failure ⟨device, calls ++ [call]⟩

instance [ByteDevice δ] : ByteDevice (Traced δ) where
  readAt offset length := lift (.readAt offset length) (ByteDevice.readAt offset length)
  readInto offset length :=
    lift (.readInto offset length) (ByteDevice.readInto offset length)
  writeAt offset data :=
    lift (.writeAt offset data.size) (ByteDevice.writeAt offset data)
  append data := lift (.append data.size) (ByteDevice.append data)
  extend additional := lift (.extend additional) (ByteDevice.extend additional)
  truncate newSize := lift (.truncate newSize) (ByteDevice.truncate newSize)
  size := lift .size ByteDevice.size
  flush := lift .flush ByteDevice.flush
  sync := lift .sync ByteDevice.sync
  release traced := ⟨ByteDevice.release traced.device, traced.calls⟩

end Traced

end PackedRecords
