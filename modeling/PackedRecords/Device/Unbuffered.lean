import PackedRecords.Device.Basic

/-! # Devices without a buffered read

`Unbuffered δ` offers every operation of `δ` but its `readInto`, and so reads into
a buffer by way of `readAt`.
-/

namespace PackedRecords

/-- A device seen without its own way of reading into a buffer. -/
structure Unbuffered (δ : Type) where
  device : δ
deriving DecidableEq, Inhabited

namespace Unbuffered

variable {δ α : Type}

def lift (action : DeviceM δ α) : DeviceM (Unbuffered δ) α := fun ⟨device⟩ =>
  match action device with
  | .ok value device => .ok value ⟨device⟩
  | .error failure device => .error failure ⟨device⟩

instance [ByteDevice δ] : ByteDevice (Unbuffered δ) where
  readAt offset length := lift (ByteDevice.readAt offset length)
  writeAt offset data := lift (ByteDevice.writeAt offset data)
  append data := lift (ByteDevice.append data)
  extend additional := lift (ByteDevice.extend additional)
  truncate newSize := lift (ByteDevice.truncate newSize)
  size := lift ByteDevice.size
  flush := lift ByteDevice.flush
  sync := lift ByteDevice.sync
  release wrapped := ⟨ByteDevice.release wrapped.device⟩

end Unbuffered

end PackedRecords
