import PackedRecords.Proofs.Disk.OpenFile
import PackedRecords.Proofs.Store.InMemory
import PackedRecords.Store.Medium

/-! # Reads leave everything in place

Whatever has become of a medium, reading changes none of its bytes, whether or not the
read succeeds. So an operation of a store that does nothing but read leaves the store as
it found it, apart from its counters.
-/

namespace PackedRecords

/-- A medium that keeps its bytes whatever is read, in every state it can be in. -/
class ReadsInPlace (δ : Type) [Medium δ] : Prop where
  contents_readAt : ∀ (offset length : Nat) (device : δ),
    Medium.contents (finalState (ByteDevice.readAt offset length device)) =
      Medium.contents device
  contents_readInto : ∀ (offset length : Nat) (device : δ),
    Medium.contents (finalState (ByteDevice.readInto offset length device)) =
      Medium.contents device

theorem Memory.finalState_read (offset length : Nat) (memory : Memory) :
    finalState (read offset length memory) = memory := by
  simp only [read]
  split <;> rfl

instance : ReadsInPlace Memory where
  contents_readAt offset length memory :=
    congrArg Medium.contents (Memory.finalState_read offset length memory)
  contents_readInto offset length memory :=
    congrArg Medium.contents (Memory.finalState_read offset length memory)

instance : ReadsInPlace OpenFile where
  contents_readAt offset length file :=
    congrArg Medium.contents (OpenFile.finalState_readAt offset length file)
  contents_readInto offset length file :=
    congrArg Medium.contents (OpenFile.finalState_read offset length file)

section Around

variable {δ α : Type} [Medium δ] {call : DeviceM δ α}
  (kept : ∀ device, Medium.contents (finalState (call device)) = Medium.contents device)
include kept

theorem Faulty.contents_lift (kind : DeviceCall) (faulty : Faulty δ) :
    Medium.contents (finalState (lift kind call faulty)) = Medium.contents faulty := by
  have same := kept faulty.device
  rw [lift]
  cases faulty.budgets.spend? kind with
  | none => rfl
  | some budgets =>
      simp only []
      cases ran : call faulty.device with
      | ok value after | error failure after =>
          rw [ran] at same
          exact same

theorem Unbuffered.contents_lift (wrapped : Unbuffered δ) :
    Medium.contents (finalState (lift call wrapped)) = Medium.contents wrapped := by
  have same := kept wrapped.device
  rw [lift]
  cases ran : call wrapped.device with
  | ok value after | error failure after =>
      rw [ran] at same
      exact same

end Around

instance {δ : Type} [Medium δ] [ReadsInPlace δ] : ReadsInPlace (Faulty δ) where
  contents_readAt offset length :=
    Faulty.contents_lift (ReadsInPlace.contents_readAt offset length) .readAt
  contents_readInto offset length :=
    Faulty.contents_lift (ReadsInPlace.contents_readInto offset length) .readInto

instance {δ : Type} [Medium δ] [ReadsInPlace δ] : ReadsInPlace (Unbuffered δ) where
  contents_readAt offset length :=
    Unbuffered.contents_lift (ReadsInPlace.contents_readAt offset length)
  contents_readInto offset length :=
    Unbuffered.contents_lift (ReadsInPlace.contents_readAt offset length)

namespace Store

variable {δ α : Type}

/-! ## The length of a record -/

section Length

variable [ByteDevice δ] (offset : Nat) (store : Store δ)

theorem readLength_eq :
    readLength offset store =
      match ByteDevice.readInto (offset + keySize) lengthSize store.device with
      | .ok bytes device => .ok (readBigEndian32 bytes 0) (store.withDevice device)
      | .error failure device => .error (.device failure) (store.withDevice device) := by
  rcases store with ⟨device, index, config, stats, isOpen⟩
  cases read : ByteDevice.readInto (offset + keySize) lengthSize device with
  | ok bytes after =>
      rw [readLength, bind_of_ok (onDevice_run read)]
      rfl
  | error failure after =>
      have failed : onDevice (ByteDevice.readInto (offset + keySize) lengthSize)
          ⟨device, index, config, stats, isOpen⟩ =
            .error (.device failure) ⟨after, index, config, stats, isOpen⟩ := by
        simp only [onDevice, read]
      rw [readLength, bind_of_error failed]
      rfl

/-- Whether the length is acceptable depends on the bytes and the limit, and nothing but
the device can be another afterwards. -/
theorem readValidLength_eq :
    readValidLength offset store =
      match ByteDevice.readInto (offset + keySize) lengthSize store.device with
      | .ok bytes device =>
          expectLength offset
            (validateLength (readBigEndian32 bytes 0) store.config.payloadLimit)
            (store.withDevice device)
      | .error failure device => .error (.device failure) (store.withDevice device) := by
  have length := readLength_eq offset store
  rw [readValidLength]
  cases read : ByteDevice.readInto (offset + keySize) lengthSize store.device with
  | ok bytes after =>
      simp only [read] at length
      rw [bind_of_ok length]
      rfl
  | error failure after =>
      simp only [read] at length
      rw [bind_of_error length]

end Length

/-! ## Operations that only read -/

/-- The store still has its bytes, and what leads to them. -/
structure Intact [Medium δ] (original store : Store δ) : Prop where
  contents : Medium.contents store.device = Medium.contents original.device
  index : store.index = original.index
  config : store.config = original.config
  isOpen : store.isOpen = original.isOpen

namespace Intact

variable [Medium δ] {original store : Store δ}

theorem refl (store : Store δ) : Intact store store :=
  ⟨rfl, rfl, rfl, rfl⟩

theorem withDevice (intact : Intact original store) {device : δ}
    (kept : Medium.contents device = Medium.contents store.device) :
    Intact original (store.withDevice device) :=
  ⟨kept.trans intact.contents, intact.index, intact.config, intact.isOpen⟩

theorem keeps_view (read : Store δ → α) :
    Keeps (Intact original) (view read) (fun _ => True) :=
  fun _ intact => ⟨intact, trivial⟩

theorem keeps_count (update : Stats → Stats) :
    Keeps (Intact original) (count update) (fun _ => True) :=
  fun _ intact => ⟨⟨intact.contents, intact.index, intact.config, intact.isOpen⟩, trivial⟩

theorem keeps_requireOpen : Keeps (Intact original) requireOpen (fun _ => True) := by
  intro store intact
  rw [requireOpen]
  cases store.isOpen with
  | true => exact ⟨intact, trivial⟩
  | false => exact intact

theorem keeps_onDevice {call : DeviceM δ α}
    (kept : ∀ device, Medium.contents (finalState (call device)) = Medium.contents device) :
    Keeps (Intact original) (onDevice call) (fun _ => True) := by
  intro store intact
  have same := kept store.device
  rw [onDevice]
  cases ran : call store.device with
  | ok value after =>
      rw [ran] at same
      exact ⟨intact.withDevice same, trivial⟩
  | error failure after =>
      rw [ran] at same
      exact intact.withDevice same

variable [ReadsInPlace δ]

theorem keeps_readLength (offset : Nat) :
    Keeps (Intact original) (readLength offset) (fun _ => True) :=
  (keeps_onDevice (ReadsInPlace.contents_readInto _ _)).bind fun _ _ => keeps_pure trivial

/-- A payload is looked up in place. -/
theorem keeps_get (key : EntityId) :
    Keeps (Intact original) (get key) (fun _ => True) := by
  refine (keeps_count _).bind fun _ _ => keeps_requireOpen.bind fun _ _ =>
    (keeps_view _).bind fun offset _ => ?_
  cases offset with
  | none => exact keeps_pure trivial
  | some offset =>
      exact (keeps_readLength offset).bind fun length _ =>
        (keeps_onDevice (ReadsInPlace.contents_readAt _ _)).bind fun payload _ =>
          (keeps_count _).bind fun _ _ => keeps_pure trivial

end Intact

end Store

end PackedRecords
