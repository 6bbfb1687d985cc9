import PackedRecords.Device.Faulty
import PackedRecords.Device.Memory
import PackedRecords.Device.Operation
import PackedRecords.Device.Traced
import PackedRecords.Device.Unbuffered
import PackedRecords.Proofs.Simulation

/-! # Faithful devices

A device is faithful when each of its operations answers and changes what the same
operation answers and changes on the same bytes in memory. The only other thing it
may do is to refuse an operation with an I/O failure, and then the bytes stay.
-/

namespace PackedRecords

/-- A failed transfer, as opposed to an operation that the bytes do not allow. -/
def DeviceError.IsRefusal : DeviceError → Prop
  | io _ => True
  | _ => False

instance : DecidablePred DeviceError.IsRefusal := fun failure =>
  match failure with
  | .io _ => isTrue trivial
  | .readPastEnd .. | .writePastEnd .. | .invalidTruncate .. | .locked => isFalse id

/-- A device that holds bytes as memory does. -/
class FaithfulDevice (δ : Type) [ByteDevice δ] where
  /-- The bytes that are held. -/
  contents : δ → ByteArray
  /-- What the device's own notes must keep to. -/
  Sound : δ → Prop
  serves : ∀ (operation : DeviceOperation) (device : δ), Sound device →
    Sound (operation.outcome device).2 ∧
      ((∃ failure, (operation.outcome device).1 = .error failure ∧ failure.IsRefusal) ∧
          contents (operation.outcome device).2 = contents device ∨
        operation.outcome (⟨contents device⟩ : Memory) =
          ((operation.outcome device).1, ⟨contents (operation.outcome device).2⟩))
  sound_release : ∀ device : δ, Sound device → Sound (ByteDevice.release device)
  contents_release : ∀ device : δ,
    contents (ByteDevice.release device) = contents device

instance : FaithfulDevice Memory where
  contents := Memory.bytes
  Sound _ := True
  serves _ _ _ := ⟨trivial, .inr rfl⟩
  sound_release _ _ := trivial
  contents_release _ := rfl

theorem FaithfulDevice.sound_memory (memory : Memory) : FaithfulDevice.Sound memory :=
  trivial

/-! ## Devices around another one -/

section Around

variable {δ α β : Type}

namespace Unbuffered

theorem lift_bind_pure (action : DeviceM δ α) (answer : α → β) :
    (lift action >>= fun value => pure (answer value)) =
      lift (action >>= fun value => pure (answer value)) := by
  funext wrapped
  cases ran : action wrapped.device with
  | ok value after =>
      simp only [bind, EStateM.bind, lift, ran]
      rfl
  | error failure after => simp only [bind, EStateM.bind, lift, ran]

/-- What an operation asks of the device below. -/
def below : DeviceOperation → DeviceOperation
  | .readInto offset buffer => .readAt offset buffer.size
  | operation => operation

theorem outcome_eq [ByteDevice δ] (operation : DeviceOperation) (wrapped : Unbuffered δ) :
    operation.outcome wrapped =
      (((below operation).outcome wrapped.device).1,
        ⟨((below operation).outcome wrapped.device).2⟩) := by
  have lifted : (operation.run : DeviceM (Unbuffered δ) DeviceAnswer) =
      lift (below operation).run := by
    cases operation <;> exact lift_bind_pure ..
  rw [DeviceOperation.outcome, DeviceOperation.outcome, lifted, lift]
  cases (below operation).run wrapped.device <;> rfl

theorem outcome_below_memory (operation : DeviceOperation) (memory : Memory) :
    (below operation).outcome memory = operation.outcome memory := by
  cases operation <;> rfl

end Unbuffered

instance [ByteDevice δ] [FaithfulDevice δ] : FaithfulDevice (Unbuffered δ) where
  contents wrapped := FaithfulDevice.contents wrapped.device
  Sound wrapped := FaithfulDevice.Sound wrapped.device
  serves operation wrapped sound := by
    have served := FaithfulDevice.serves (Unbuffered.below operation) wrapped.device sound
    rw [Unbuffered.outcome_below_memory] at served
    rw [Unbuffered.outcome_eq]
    exact served
  sound_release wrapped := FaithfulDevice.sound_release wrapped.device
  contents_release wrapped := FaithfulDevice.contents_release wrapped.device

namespace Traced

theorem lift_bind_pure (call : TracedCall) (action : DeviceM δ α) (answer : α → β) :
    (lift call action >>= fun value => pure (answer value)) =
      lift call (action >>= fun value => pure (answer value)) := by
  funext traced
  cases ran : action traced.device with
  | ok value after =>
      simp only [bind, EStateM.bind, lift, ran]
      rfl
  | error failure after => simp only [bind, EStateM.bind, lift, ran]

/-- The call that an operation makes. -/
def call : DeviceOperation → TracedCall
  | .readAt offset length => .readAt offset length
  | .readInto offset buffer => .readInto offset buffer.size
  | .writeAt offset data => .writeAt offset data.size
  | .append data => .append data.size
  | .extend additional => .extend additional
  | .truncate newSize => .truncate newSize
  | .size => .size
  | .flush => .flush
  | .sync => .sync

theorem outcome_eq [ByteDevice δ] (operation : DeviceOperation) (traced : Traced δ) :
    operation.outcome traced =
      ((operation.outcome traced.device).1,
        ⟨(operation.outcome traced.device).2, traced.calls ++ [call operation]⟩) := by
  have lifted : (operation.run : DeviceM (Traced δ) DeviceAnswer) =
      lift (call operation) operation.run := by
    cases operation <;> exact lift_bind_pure ..
  rw [DeviceOperation.outcome, DeviceOperation.outcome, lifted, lift]
  cases operation.run traced.device <;> rfl

end Traced

instance [ByteDevice δ] [FaithfulDevice δ] : FaithfulDevice (Traced δ) where
  contents traced := FaithfulDevice.contents traced.device
  Sound traced := FaithfulDevice.Sound traced.device
  serves operation traced sound := by
    have served := FaithfulDevice.serves operation traced.device sound
    rw [Traced.outcome_eq]
    exact served
  sound_release traced := FaithfulDevice.sound_release traced.device
  contents_release traced := FaithfulDevice.contents_release traced.device

namespace Faulty

theorem lift_bind_pure (call : DeviceCall) (action : DeviceM δ α) (answer : α → β) :
    (lift call action >>= fun value => pure (answer value)) =
      lift call (action >>= fun value => pure (answer value)) := by
  funext faulty
  cases spent : faulty.budgets.spend? call with
  | none => simp only [bind, EStateM.bind, lift, spent]
  | some budgets =>
      cases ran : action faulty.device with
      | ok value after =>
          simp only [bind, EStateM.bind, lift, spent, ran]
          rfl
      | error failure after => simp only [bind, EStateM.bind, lift, spent, ran]

/-- The kind of call that an operation makes. -/
def call : DeviceOperation → DeviceCall
  | .readAt .. => .readAt
  | .readInto .. => .readInto
  | .writeAt .. => .writeAt
  | .append .. => .append
  | .extend .. => .extend
  | .truncate .. => .truncate
  | .size => .size
  | .flush => .flush
  | .sync => .sync

theorem outcome_eq [ByteDevice δ] (operation : DeviceOperation) (faulty : Faulty δ) :
    operation.outcome faulty =
      match faulty.budgets.spend? (call operation) with
      | none => (.error (refusal (call operation)), faulty)
      | some budgets =>
          ((operation.outcome faulty.device).1,
            ⟨(operation.outcome faulty.device).2, budgets⟩) := by
  have lifted : (operation.run : DeviceM (Faulty δ) DeviceAnswer) =
      lift (call operation) operation.run := by
    cases operation <;> exact lift_bind_pure ..
  rw [DeviceOperation.outcome, DeviceOperation.outcome, lifted, lift]
  cases faulty.budgets.spend? (call operation) with
  | none => rfl
  | some budgets => cases operation.run faulty.device <;> rfl

end Faulty

instance [ByteDevice δ] [FaithfulDevice δ] : FaithfulDevice (Faulty δ) where
  contents faulty := FaithfulDevice.contents faulty.device
  Sound faulty := FaithfulDevice.Sound faulty.device
  serves operation faulty sound := by
    rw [Faulty.outcome_eq]
    cases faulty.budgets.spend? (Faulty.call operation) with
    | none => exact ⟨sound, .inl ⟨⟨_, rfl, trivial⟩, rfl⟩⟩
    | some budgets => exact FaithfulDevice.serves operation faulty.device sound
  sound_release faulty := FaithfulDevice.sound_release faulty.device
  contents_release faulty := FaithfulDevice.contents_release faulty.device

end Around

end PackedRecords
