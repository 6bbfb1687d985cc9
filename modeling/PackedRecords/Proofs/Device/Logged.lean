import PackedRecords.Proofs.Device.Faithful

/-! # Devices that keep a log

`Logged δ` passes every call on to the device below and notes it in a log, together with
whether it was served. So it can be told afterwards how far a sequence of calls has come,
and which call it was that stopped it.
-/

namespace PackedRecords

structure LoggedCall where
  call : TracedCall
  served : Bool
deriving DecidableEq, Inhabited

namespace TracedCall

def served (call : TracedCall) : LoggedCall :=
  ⟨call, true⟩

def refused (call : TracedCall) : LoggedCall :=
  ⟨call, false⟩

end TracedCall

/-- A device together with the calls it has got and what has become of them. -/
structure Logged (δ : Type) where
  device : δ
  log : List LoggedCall
deriving DecidableEq, Inhabited

namespace Logged

variable {δ α β : Type}

def lift (call : TracedCall) (action : DeviceM δ α) : DeviceM (Logged δ) α :=
  fun ⟨device, log⟩ =>
    match action device with
    | .ok value device => .ok value ⟨device, log ++ [call.served]⟩
    | .error failure device => .error failure ⟨device, log ++ [call.refused]⟩

instance [ByteDevice δ] : ByteDevice (Logged δ) where
  readAt offset length := lift (.readAt offset length) (ByteDevice.readAt offset length)
  readInto offset length :=
    lift (.readInto offset length) (ByteDevice.readInto offset length)
  writeAt offset data := lift (.writeAt offset data.size) (ByteDevice.writeAt offset data)
  append data := lift (.append data.size) (ByteDevice.append data)
  extend additional := lift (.extend additional) (ByteDevice.extend additional)
  truncate newSize := lift (.truncate newSize) (ByteDevice.truncate newSize)
  size := lift .size ByteDevice.size
  flush := lift .flush ByteDevice.flush
  sync := lift .sync ByteDevice.sync
  release logged := ⟨ByteDevice.release logged.device, logged.log⟩

/-! ## Faithfulness -/

theorem lift_bind_pure (call : TracedCall) (action : DeviceM δ α) (answer : α → β) :
    (lift call action >>= fun value => pure (answer value)) =
      lift call (action >>= fun value => pure (answer value)) := by
  funext logged
  cases ran : action logged.device with
  | ok value after =>
      simp only [bind, EStateM.bind, lift, ran]
      rfl
  | error failure after => simp only [bind, EStateM.bind, lift, ran]

/-- The log does not show in what is answered and done. -/
theorem outcome_eq [ByteDevice δ] (operation : DeviceOperation) (logged : Logged δ) :
    operation.outcome logged =
      ((operation.outcome logged.device).1,
        ⟨(operation.outcome logged.device).2,
          logged.log ++ [⟨Traced.call operation, succeeds (operation.run logged.device)⟩]⟩) := by
  have lifted : (operation.run : DeviceM (Logged δ) DeviceAnswer) =
      lift (Traced.call operation) operation.run := by
    cases operation <;> exact lift_bind_pure ..
  rw [DeviceOperation.outcome, DeviceOperation.outcome, lifted, lift]
  cases operation.run logged.device <;> rfl

end Logged

instance {δ : Type} [ByteDevice δ] [FaithfulDevice δ] : FaithfulDevice (Logged δ) where
  contents logged := FaithfulDevice.contents logged.device
  Sound logged := FaithfulDevice.Sound logged.device
  serves operation logged sound := by
    have served := FaithfulDevice.serves operation logged.device sound
    rw [Logged.outcome_eq]
    exact served
  sound_release logged := FaithfulDevice.sound_release logged.device
  contents_release logged := FaithfulDevice.contents_release logged.device

end PackedRecords
