import PackedRecords.Proofs.Device.Faithful
import PackedRecords.Store.Medium
import PackedRecords.Store.Operation

/-! # Stores on faithful devices

A store on a faithful device does what a store in memory does on the same bytes,
with the same index, settings and counters, unless the device refuses a call. So what
holds of stores in memory holds on every faithful device.
-/

namespace PackedRecords

variable {δ α : Type} [ByteDevice δ] [FaithfulDevice δ]

/-! ## Calls of the device -/

namespace FaithfulDevice

/-- A faithful device stands for its contents in memory. -/
def reflection (δ : Type) [ByteDevice δ] [FaithfulDevice δ] :
    Reflection δ Memory DeviceError where
  Sound := Sound
  view device := ⟨contents device⟩
  Refusal := DeviceError.IsRefusal

/-- A call of a faithful device does what the call in memory does. -/
abbrev Follows (call : DeviceM δ α) (reference : DeviceM Memory α) : Prop :=
  (reflection δ).Follows call reference

theorem follows_run (operation : DeviceOperation) :
    Follows (δ := δ) operation.run operation.run := by
  intro device sound
  have served := serves operation device sound
  rw [DeviceOperation.outcome, DeviceOperation.outcome] at served
  cases ran : operation.run device with
  | ok answer after =>
      rw [ran] at served
      rcases served with ⟨afterSound, ⟨⟨failure, impossible, _⟩, _⟩ | same⟩
      · cases impossible
      · refine ⟨afterSound, ?_⟩
        change operation.run (⟨contents device⟩ : Memory) = _
        cases memoryRan : operation.run (⟨contents device⟩ : Memory) with
        | ok other final =>
            rw [memoryRan] at same
            cases same
            rfl
        | error failure final =>
            rw [memoryRan] at same
            cases same
  | error failure after =>
      rw [ran] at served
      rcases served with ⟨afterSound, ⟨⟨_, same, refused⟩, _⟩ | same⟩
      · cases same
        exact ⟨afterSound, .inl refused⟩
      · refine ⟨afterSound, .inr ?_⟩
        change operation.run (⟨contents device⟩ : Memory) = _
        cases memoryRan : operation.run (⟨contents device⟩ : Memory) with
        | ok other final =>
            rw [memoryRan] at same
            cases same
        | error otherFailure final =>
            rw [memoryRan] at same
            cases same
            rfl

theorem follows_readAt (offset length : Nat) :
    Follows (δ := δ) (ByteDevice.readAt offset length) (ByteDevice.readAt offset length) :=
  (follows_run (.readAt offset length)).of_bind_pure fun _ _ => DeviceAnswer.bytes.inj

theorem follows_readInto (offset length : Nat) :
    Follows (δ := δ) (ByteDevice.readInto offset length)
      (ByteDevice.readInto offset length) := by
  have read := (follows_run (δ := δ) (.readInto offset (zeroBytes length))).of_bind_pure
    fun _ _ => DeviceAnswer.bytes.inj
  rwa [size_zeroBytes] at read

theorem follows_writeAt (offset : Nat) (data : ByteArray) :
    Follows (δ := δ) (ByteDevice.writeAt offset data) (ByteDevice.writeAt offset data) :=
  (follows_run (.writeAt offset data)).of_bind_pure fun _ _ _ => rfl

theorem follows_extend (additional : Nat) :
    Follows (δ := δ) (ByteDevice.extend additional) (ByteDevice.extend additional) :=
  (follows_run (.extend additional)).of_bind_pure fun _ _ _ => rfl

theorem follows_truncate (newSize : Nat) :
    Follows (δ := δ) (ByteDevice.truncate newSize) (ByteDevice.truncate newSize) :=
  (follows_run (.truncate newSize)).of_bind_pure fun _ _ _ => rfl

theorem follows_size : Follows (δ := δ) ByteDevice.size ByteDevice.size :=
  (follows_run .size).of_bind_pure fun _ _ => DeviceAnswer.number.inj

theorem follows_flush : Follows (δ := δ) ByteDevice.flush ByteDevice.flush :=
  (follows_run .flush).of_bind_pure fun _ _ _ => rfl

theorem follows_sync : Follows (δ := δ) ByteDevice.sync ByteDevice.sync :=
  (follows_run .sync).of_bind_pure fun _ _ _ => rfl

/-! ## Calls that only look -/

/-- A call that leaves bytes in memory alone leaves those of a faithful device alone,
also when it is refused. -/
theorem contents_finalState (operation : DeviceOperation) {call : DeviceM δ α}
    (answer : α → DeviceAnswer)
    (made : operation.run = call >>= fun value => pure (answer value))
    (looks : ∀ memory : Memory, (operation.outcome memory).2 = memory) {device : δ}
    (sound : Sound device) : contents (finalState (call device)) = contents device := by
  have same : (operation.outcome device).2 = finalState (call device) := by
    rw [DeviceOperation.outcome, made]
    cases ran : call device with
    | ok value after => rw [bind_of_ok ran, pure_run, finalState]
    | error failure after => rw [bind_of_error ran, finalState]
  rw [← same]
  rcases (serves operation device sound).2 with ⟨_, kept⟩ | memorySame
  · exact kept
  · have kept := looks ⟨contents device⟩
    rw [memorySame] at kept
    exact congrArg Memory.bytes kept

theorem contents_size {device : δ} (sound : Sound device) :
    contents (finalState (ByteDevice.size device)) = contents device :=
  contents_finalState .size .number rfl (fun _ => rfl) sound

theorem contents_flush {device : δ} (sound : Sound device) :
    contents (finalState (ByteDevice.flush device)) = contents device :=
  contents_finalState .flush (fun _ => .done) rfl (fun _ => rfl) sound

theorem contents_readInto (offset length : Nat) {device : δ} (sound : Sound device) :
    contents (finalState (ByteDevice.readInto offset length device)) = contents device := by
  refine contents_finalState (.readInto offset (zeroBytes length)) .bytes ?_ ?_ sound
  · rw [DeviceOperation.run, size_zeroBytes]
  · intro memory
    rw [DeviceOperation.outcome, DeviceOperation.run, size_zeroBytes]
    by_cases inside : offset + length ≤ memory.bytes.size
    · have ran : (ByteDevice.readInto offset length : DeviceM Memory ByteArray) memory =
          .ok (memory.bytes.extract offset (offset + length)) memory := by
        change Memory.read offset length memory = _
        simp only [Memory.read, if_pos inside]
      rw [bind_of_ok ran, pure_run]
    · have ran : (ByteDevice.readInto offset length : DeviceM Memory ByteArray) memory =
          .error (.readPastEnd offset length memory.bytes.size) memory := by
        change Memory.read offset length memory = _
        simp only [Memory.read, if_neg inside]
      rw [bind_of_error ran]

/-! ## Shifting the tail -/

theorem follows_copyChunk (origin destination length : Nat) :
    Follows (δ := δ) (copyChunk origin destination length)
      (copyChunk origin destination length) :=
  (follows_readInto origin length).bind fun bytes => follows_writeAt destination bytes

theorem follows_copyUp (buffer : Nat) (positive : 0 < buffer)
    (source distance remaining : Nat) :
    Follows (δ := δ) (copyUp buffer positive source distance remaining)
      (copyUp buffer positive source distance remaining) := by
  induction remaining using Nat.strongRecOn with
  | ind remaining induction =>
      rw [copyUp, copyUp]
      split
      · exact Reflection.follows_pure ()
      · exact (follows_copyChunk _ _ _).bind fun _ => induction _ (by omega)

theorem follows_copyDown (buffer : Nat) (positive : 0 < buffer)
    (source distance remaining : Nat) :
    Follows (δ := δ) (copyDown buffer positive source distance remaining)
      (copyDown buffer positive source distance remaining) := by
  induction remaining using Nat.strongRecOn generalizing source with
  | ind remaining induction =>
      rw [copyDown, copyDown]
      split
      · exact Reflection.follows_pure ()
      · exact (follows_copyChunk _ _ _).bind fun _ => induction _ (by omega) _

theorem follows_shiftTail (buffer : Nat) (positive : 0 < buffer) (source : Nat)
    (delta : Int) :
    Follows (δ := δ) (shiftTail buffer positive source delta)
      (shiftTail buffer positive source delta) := by
  rw [shiftTail, shiftTail]
  refine follows_size.bind fun size => ?_
  by_cases past : size < source
  · simp only [if_pos past]
    exact Reflection.follows_throw_bind _ _ _
  · simp only [if_neg past]
    match delta with
    | .ofNat 0 => exact Reflection.follows_pure _
    | .ofNat (distance + 1) =>
        exact (follows_extend _).bind fun _ =>
          (follows_copyUp _ _ _ _ _).bind fun _ => Reflection.follows_pure _
    | .negSucc below =>
        exact (follows_copyDown _ _ _ _ _).bind fun _ =>
          (follows_truncate _).bind fun _ => Reflection.follows_pure _

end FaithfulDevice

/-! ## Operations of a store -/

/-- A failure that comes from a refusal of the system or from a lock that another
handle holds, not from the records. -/
def StoreError.IsRefusal : StoreError → Prop
  | device failure => failure.IsRefusal
  | io _ | locked => True
  | _ => False

instance : DecidablePred StoreError.IsRefusal := fun failure =>
  match failure with
  | .device failure => inferInstanceAs (Decidable failure.IsRefusal)
  | .io _ | .locked => isTrue trivial
  | .payloadTooLarge .. | .corruptRecord .. | .codec _ | .closed => isFalse id

namespace Store

/-- The store in memory that a store on a faithful device stands for. -/
def inMemory (store : Store δ) : Store Memory :=
  store.withDevice ⟨FaithfulDevice.contents store.device⟩

/-- A store on a faithful device stands for the one in memory. -/
def reflection (δ : Type) [ByteDevice δ] [FaithfulDevice δ] :
    Reflection (Store δ) (Store Memory) StoreError where
  Sound store := FaithfulDevice.Sound store.device
  view := inMemory
  Refusal := StoreError.IsRefusal

/-- An operation on a faithful device does what the operation in memory does. -/
abbrev Follows (action : StoreM δ α) (reference : StoreM Memory α) : Prop :=
  (reflection δ).Follows action reference

theorem follows_onDevice {call : DeviceM δ α} {reference : DeviceM Memory α}
    (follows : FaithfulDevice.Follows call reference) :
    Follows (onDevice call) (onDevice reference) := by
  intro ⟨device, index, config, stats, isOpen⟩ sound
  cases ran : call device with
  | ok value after =>
      rcases follows.ok sound ran with ⟨afterSound, memoryRan⟩
      simp only [onDevice, ran]
      refine ⟨afterSound, ?_⟩
      change onDevice reference
        ⟨⟨FaithfulDevice.contents device⟩, index, config, stats, isOpen⟩ = _
      change reference ⟨FaithfulDevice.contents device⟩ = _ at memoryRan
      rw [onDevice, memoryRan]
      rfl
  | error failure after =>
      rcases follows.error sound ran with ⟨afterSound, refused | memoryRan⟩
      · simp only [onDevice, ran]
        exact ⟨afterSound, .inl refused⟩
      · simp only [onDevice, ran]
        refine ⟨afterSound, .inr ?_⟩
        change onDevice reference
          ⟨⟨FaithfulDevice.contents device⟩, index, config, stats, isOpen⟩ = _
        change reference ⟨FaithfulDevice.contents device⟩ = _ at memoryRan
        rw [onDevice, memoryRan]
        rfl

theorem follows_view {read : Store δ → α} {reference : Store Memory → α}
    (same : ∀ store, reference (inMemory store) = read store) :
    Follows (view read) (view reference) := by
  intro store sound
  refine ⟨sound, ?_⟩
  change view reference (inMemory store) = _
  rw [view, same]
  rfl

theorem follows_count (update : Stats → Stats) :
    Follows (δ := δ) (count update) (count update) := by
  intro store sound
  exact ⟨sound, rfl⟩

theorem follows_reindex (update : Index → Index) :
    Follows (δ := δ) (reindex update) (reindex update) := by
  intro store sound
  exact ⟨sound, rfl⟩

theorem follows_requireOpen : Follows (δ := δ) requireOpen requireOpen := by
  intro ⟨device, index, config, stats, isOpen⟩ sound
  cases isOpen with
  | true => exact ⟨sound, rfl⟩
  | false => exact ⟨sound, .inr rfl⟩

theorem follows_offset? (key : EntityId) : Follows (δ := δ) (offset? key) (offset? key) :=
  follows_view fun _ => rfl

theorem follows_expectLength (offset : Nat) (length : Except Corruption Nat) :
    Follows (δ := δ) (expectLength offset length) (expectLength offset length) := by
  cases length with
  | ok length => exact Reflection.follows_pure length
  | error fault => exact Reflection.follows_throw _

theorem follows_readLength (offset : Nat) :
    Follows (δ := δ) (readLength offset) (readLength offset) :=
  (follows_onDevice (FaithfulDevice.follows_readInto _ _)).bind fun _ =>
    Reflection.follows_pure _

theorem follows_readValidLength (offset : Nat) :
    Follows (δ := δ) (readValidLength offset) (readValidLength offset) :=
  (follows_readLength offset).bind fun _ =>
    Reflection.Follows.bind (follows_view fun _ => rfl) fun _ => follows_expectLength _ _

theorem follows_shiftAfter (source : Nat) (delta : Int) :
    Follows (δ := δ) (shiftAfter source delta) (shiftAfter source delta) :=
  Reflection.Follows.bind (follows_view fun _ => rfl) fun _ =>
    (follows_onDevice (FaithfulDevice.follows_shiftTail _ _ _ _)).bind fun _ =>
      (follows_reindex _).bind fun _ => Reflection.follows_pure _

theorem follows_syncIfConfigured :
    Follows (δ := δ) syncIfConfigured syncIfConfigured := by
  refine Reflection.Follows.bind (follows_view fun _ => rfl) fun configured => ?_
  cases configured with
  | true => exact follows_onDevice FaithfulDevice.follows_sync
  | false => exact Reflection.follows_pure ()

theorem follows_get (key : EntityId) : Follows (δ := δ) (get key) (get key) := by
  refine (follows_count _).bind fun _ => follows_requireOpen.bind fun _ =>
    (follows_offset? key).bind fun found => ?_
  cases found with
  | none => exact Reflection.follows_pure none
  | some offset =>
      exact (follows_readLength offset).bind fun _ =>
        (follows_onDevice (FaithfulDevice.follows_readAt _ _)).bind fun _ =>
          (follows_count _).bind fun _ => Reflection.follows_pure _

theorem follows_append (key : EntityId) (payload : ByteArray) :
    Follows (δ := δ) (append key payload) (append key payload) :=
  (follows_onDevice FaithfulDevice.follows_size).bind fun _ =>
    (follows_onDevice (FaithfulDevice.follows_writeAt _ _)).bind fun _ =>
      (follows_onDevice (FaithfulDevice.follows_writeAt _ _)).bind fun _ =>
        (follows_reindex _).bind fun _ => follows_count _

theorem follows_update (offset : Nat) (payload : ByteArray) :
    Follows (δ := δ) (update offset payload) (update offset payload) := by
  refine (follows_readValidLength offset).bind fun length => ?_
  by_cases same : length = payload.size
  · simp only [if_pos same]
    exact (follows_onDevice (FaithfulDevice.follows_writeAt _ _)).bind fun _ =>
      follows_count _
  · simp only [if_neg same]
    exact (follows_shiftAfter _ _).bind fun _ => (follows_count _).bind fun _ =>
      (follows_onDevice (FaithfulDevice.follows_writeAt _ _)).bind fun _ =>
        (follows_onDevice (FaithfulDevice.follows_writeAt _ _)).bind fun _ =>
          follows_count _

theorem follows_put (key : EntityId) (payload : ByteArray) :
    Follows (δ := δ) (put key payload) (put key payload) := by
  refine Reflection.Follows.bind (follows_view fun _ => rfl) fun limit => ?_
  by_cases large : limit < payload.size
  · simp only [if_pos large]
    exact Reflection.follows_throw_bind _ _ _
  · simp only [if_neg large]
    refine follows_requireOpen.bind fun _ => (follows_offset? key).bind fun found => ?_
    cases found with
    | none => exact (follows_append key payload).bind fun _ => follows_syncIfConfigured
    | some offset =>
        exact (follows_update offset payload).bind fun _ => follows_syncIfConfigured

theorem follows_remove (key : EntityId) :
    Follows (δ := δ) (remove key) (remove key) := by
  refine follows_requireOpen.bind fun _ => (follows_offset? key).bind fun found => ?_
  cases found with
  | none => exact Reflection.follows_pure false
  | some offset =>
      exact (follows_reindex _).bind fun _ => (follows_readValidLength offset).bind fun _ =>
        (follows_shiftAfter _ _).bind fun _ => follows_syncIfConfigured.bind fun _ =>
          (follows_count _).bind fun _ => (follows_count _).bind fun _ =>
            Reflection.follows_pure true

theorem follows_contains (key : EntityId) :
    Follows (δ := δ) (contains key) (contains key) :=
  follows_requireOpen.bind fun _ => follows_view fun _ => rfl

theorem follows_offsetOf (key : EntityId) :
    Follows (δ := δ) (offsetOf key) (offsetOf key) :=
  follows_requireOpen.bind fun _ => follows_offset? key

theorem follows_length : Follows (δ := δ) length length :=
  follows_requireOpen.bind fun _ => follows_view fun _ => rfl

theorem follows_isEmpty : Follows (δ := δ) isEmpty isEmpty :=
  follows_length.bind fun _ => Reflection.follows_pure _

theorem follows_keys : Follows (δ := δ) keys keys :=
  follows_requireOpen.bind fun _ => follows_view fun _ => rfl

theorem follows_fileSize : Follows (δ := δ) fileSize fileSize :=
  follows_requireOpen.bind fun _ => follows_onDevice FaithfulDevice.follows_size

theorem follows_recordInfo (entry : EntityId × Nat) :
    Follows (δ := δ) (recordInfo entry) (recordInfo entry) :=
  (follows_readLength entry.2).bind fun _ => Reflection.follows_pure _

theorem follows_mapM_recordInfo (entries : List (EntityId × Nat)) :
    Follows (δ := δ) (entries.mapM recordInfo) (entries.mapM recordInfo) := by
  induction entries with
  | nil => exact Reflection.follows_pure []
  | cons entry rest induction =>
      rw [List.mapM_cons, List.mapM_cons]
      exact (follows_recordInfo entry).bind fun _ => induction.bind fun _ =>
        Reflection.follows_pure _

theorem follows_scan : Follows (δ := δ) scan scan :=
  follows_requireOpen.bind fun _ => Reflection.Follows.bind (follows_view fun _ => rfl)
    fun _ => follows_mapM_recordInfo _

theorem follows_flush : Follows (δ := δ) flush flush :=
  follows_requireOpen.bind fun _ => follows_onDevice FaithfulDevice.follows_flush

theorem follows_sync : Follows (δ := δ) sync sync :=
  follows_requireOpen.bind fun _ => follows_onDevice FaithfulDevice.follows_sync

theorem follows_close : Follows (δ := δ) close close := by
  intro ⟨device, index, config, stats, isOpen⟩ sound
  cases isOpen with
  | false => exact ⟨sound, rfl⟩
  | true =>
      cases ran : ByteDevice.flush device with
      | ok value after =>
          have kept := FaithfulDevice.contents_flush sound
          rw [ran, finalState] at kept
          simp only [close, ran, if_true]
          have afterSound := (FaithfulDevice.follows_flush.ok sound ran).1
          refine ⟨FaithfulDevice.sound_release after afterSound, ?_⟩
          change EStateM.Result.ok ()
              (⟨⟨FaithfulDevice.contents device⟩, index, config, stats, false⟩ :
                Store Memory) =
            .ok () ⟨⟨FaithfulDevice.contents (ByteDevice.release after)⟩, index, config,
              stats, false⟩
          rw [FaithfulDevice.contents_release, kept]
      | error failure after =>
          simp only [close, ran, if_true]
          rcases FaithfulDevice.follows_flush.error sound ran with
            ⟨afterSound, refused | memoryRan⟩
          · exact ⟨FaithfulDevice.sound_release after afterSound, .inl refused⟩
          · cases memoryRan

end Store

/-- Every operation on a faithful device does what it does in memory. -/
theorem StoreOperation.follows_run (operation : StoreOperation) :
    Store.Follows (δ := δ) operation.run operation.run := by
  cases operation with
  | put key payload =>
      exact (Store.follows_put key payload).bind fun _ => Reflection.follows_pure _
  | get key => exact (Store.follows_get key).bind fun _ => Reflection.follows_pure _
  | remove key => exact (Store.follows_remove key).bind fun _ => Reflection.follows_pure _
  | contains key =>
      exact (Store.follows_contains key).bind fun _ => Reflection.follows_pure _
  | offsetOf key =>
      exact (Store.follows_offsetOf key).bind fun _ => Reflection.follows_pure _
  | length => exact Store.follows_length.bind fun _ => Reflection.follows_pure _
  | isEmpty => exact Store.follows_isEmpty.bind fun _ => Reflection.follows_pure _
  | keys => exact Store.follows_keys.bind fun _ => Reflection.follows_pure _
  | fileSize => exact Store.follows_fileSize.bind fun _ => Reflection.follows_pure _
  | scan => exact Store.follows_scan.bind fun _ => Reflection.follows_pure _
  | flush => exact Store.follows_flush.bind fun _ => Reflection.follows_pure _
  | sync => exact Store.follows_sync.bind fun _ => Reflection.follows_pure _
  | close => exact Store.follows_close.bind fun _ => Reflection.follows_pure _

/-! ## Runs -/

theorem StoreOperation.runAll_append {δ : Type} [ByteDevice δ]
    (first second : List StoreOperation) (store : Store δ) :
    runAll (first ++ second) store =
      ((runAll first store).1 ++ (runAll second (runAll first store).2).1,
        (runAll second (runAll first store).2).2) := by
  induction first generalizing store with
  | nil => rfl
  | cons operation rest induction =>
      rw [List.cons_append, runAll, runAll]
      simp only [induction, List.cons_append]

/-! ### Without refusals -/

namespace StoreOperation

/-- An operation that is not refused has its outcome in memory. -/
theorem outcome_inMemory {operation : StoreOperation} {store : Store δ}
    (sound : FaithfulDevice.Sound store.device)
    (served : ∀ failure, (operation.outcome store).1 = .error failure → ¬failure.IsRefusal) :
    FaithfulDevice.Sound (operation.outcome store).2.device ∧
      operation.outcome store.inMemory =
        ((operation.outcome store).1, (operation.outcome store).2.inMemory) := by
  rw [outcome] at served ⊢
  cases ran : operation.run store with
  | ok answer after =>
      rcases operation.follows_run.ok sound ran with ⟨afterSound, memoryRan⟩
      refine ⟨afterSound, ?_⟩
      change operation.run store.inMemory = _ at memoryRan
      rw [outcome, memoryRan]
      rfl
  | error failure after =>
      rw [ran] at served
      rcases operation.follows_run.error sound ran with ⟨afterSound, refused | memoryRan⟩
      · exact absurd refused (served failure rfl)
      · refine ⟨afterSound, ?_⟩
        change operation.run store.inMemory = _ at memoryRan
        rw [outcome, memoryRan]
        rfl

theorem runAll_inMemory {operations : List StoreOperation} {store : Store δ}
    (sound : FaithfulDevice.Sound store.device)
    (served : ∀ failure, .error failure ∈ (runAll operations store).1 → ¬failure.IsRefusal) :
    FaithfulDevice.Sound (runAll operations store).2.device ∧
      runAll operations store.inMemory =
        ((runAll operations store).1, (runAll operations store).2.inMemory) := by
  induction operations generalizing store with
  | nil => exact ⟨sound, rfl⟩
  | cons operation rest induction =>
      have first : ∀ failure, (operation.outcome store).1 = .error failure →
          ¬failure.IsRefusal := by
        intro failure failed
        apply served failure
        rw [runAll, ← failed]
        exact List.mem_cons_self
      have later : ∀ failure, .error failure ∈ (runAll rest (operation.outcome store).2).1 →
          ¬failure.IsRefusal := by
        intro failure member
        apply served failure
        rw [runAll]
        exact List.mem_cons_of_mem _ member
      rcases outcome_inMemory sound first with ⟨middleSound, stepped⟩
      rcases induction middleSound later with ⟨afterSound, ran⟩
      rw [runAll]
      refine ⟨afterSound, ?_⟩
      rw [runAll, stepped]
      simp only [ran]

end StoreOperation

end PackedRecords
