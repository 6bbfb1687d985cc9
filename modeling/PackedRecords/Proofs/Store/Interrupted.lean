import PackedRecords.Proofs.Device.Interrupted
import PackedRecords.Proofs.Record.Header

/-! # What an interrupted write leaves alone

A write of a key that stops anywhere leaves the bytes before the place of its record
alone, and the index entries that lead there. Other keys that had no record do not get
one.
-/

namespace PackedRecords

namespace Store

variable {δ α : Type} [ByteDevice δ] [FaithfulDevice δ]

/-- Of the original store there still are the bytes at the kept positions and the index
entries that lead to them. Only the written key may have come into the index. -/
structure Retains (written : EntityId) (kept : Nat → Prop) (original : Store Memory)
    (store : Store δ) : Prop where
  device : FaithfulDevice.Retains kept original.device.bytes store.device
  isOpen : store.isOpen = original.isOpen
  entries : ∀ (key : EntityId) (offset : Nat), kept offset →
    (store.index[key]? = some offset ↔ original.index[key]? = some offset)
  missing : ∀ key : EntityId, key ≠ written → original.index[key]? = none →
    store.index[key]? = none

theorem Retains.of_inMemory {store : Store δ} {kept : Nat → Prop}
    (sound : FaithfulDevice.Sound store.device)
    (inside : ∀ position, kept position → position < (FaithfulDevice.contents store.device).size)
    (written : EntityId) : Retains written kept store.inMemory store where
  device := ⟨sound, fun position isKept => ⟨inside position isKept, rfl⟩⟩
  isOpen := rfl
  entries _ _ _ := Iff.rfl
  missing _ _ same := same

variable {written : EntityId} {kept : Nat → Prop} {original : Store Memory}

/-! ## Single steps -/

/-- A failed call leaves everything as it is. -/
theorem inMemory_of_error (operation : DeviceOperation) {call : DeviceM δ α}
    (answer : α → DeviceAnswer)
    (made : operation.run = call >>= fun value => pure (answer value)) {store after : Store δ}
    (sound : FaithfulDevice.Sound store.device) {failure : StoreError}
    (failed : onDevice call store = .error failure after) :
    FaithfulDevice.Sound after.device ∧ after.inMemory = store.inMemory := by
  rcases store with ⟨device, index, config, stats, isOpen⟩
  cases ran : call device with
  | ok value final =>
      simp only [onDevice, ran] at failed
      cases failed
  | error reason final =>
      simp only [onDevice, ran] at failed
      cases failed
      rcases FaithfulDevice.contents_of_error made sound ran with ⟨finalSound, same⟩
      exact ⟨finalSound, congrArg
        (fun bytes => (⟨⟨bytes⟩, index, config, stats, isOpen⟩ : Store Memory)) same⟩

theorem Retains.of_same {store after : Store δ} (retains : Retains written kept original store)
    (sound : FaithfulDevice.Sound after.device) (same : after.inMemory = store.inMemory) :
    Retains written kept original after := by
  have sameContents : FaithfulDevice.contents after.device = FaithfulDevice.contents store.device :=
    congrArg (fun store => store.device.bytes) same
  have sameIndex : after.index = store.index := congrArg (fun store => store.index) same
  have sameOpen : after.isOpen = store.isOpen := congrArg (fun store => store.isOpen) same
  rcases retains with ⟨⟨_, agree⟩, isOpen, entries, missing⟩
  refine ⟨⟨sound, ?_⟩, sameOpen.trans isOpen, ?_, ?_⟩
  · rw [sameContents]
    exact agree
  · rw [sameIndex]
    exact entries
  · rw [sameIndex]
    exact missing

theorem keeps_onDevice {call : DeviceM δ α} {answers : α → Prop}
    (keeps : Keeps (FaithfulDevice.Retains kept original.device.bytes) call answers) :
    Keeps (Retains written kept original) (onDevice call) answers := by
  intro ⟨device, index, config, stats, isOpen⟩ ⟨holds, sameOpen, entries, missing⟩
  cases ran : call device with
  | ok value after =>
      simp only [onDevice, ran]
      rcases keeps.ok holds ran with ⟨afterHolds, known⟩
      exact ⟨⟨afterHolds, sameOpen, entries, missing⟩, known⟩
  | error failure after =>
      simp only [onDevice, ran]
      exact ⟨keeps.error holds ran, sameOpen, entries, missing⟩

theorem keeps_view (read : Store δ → α) :
    Keeps (Retains written kept original) (view read) (fun _ => True) :=
  fun _ retains => ⟨retains, trivial⟩

theorem keeps_count (update : Stats → Stats) :
    Keeps (Retains (δ := δ) written kept original) (count update) (fun _ => True) :=
  fun _ ⟨device, isOpen, entries, missing⟩ => ⟨⟨device, isOpen, entries, missing⟩, trivial⟩

theorem keeps_requireOpen :
    Keeps (Retains (δ := δ) written kept original) requireOpen (fun _ => True) := by
  intro store retains
  rw [requireOpen]
  cases store.isOpen with
  | true => exact ⟨retains, trivial⟩
  | false => exact retains

theorem keeps_reindex {update : Index → Index}
    (entries : ∀ index : Index,
      (∀ (key : EntityId) (offset : Nat), kept offset →
        (index[key]? = some offset ↔ original.index[key]? = some offset)) →
      ∀ (key : EntityId) (offset : Nat), kept offset →
        ((update index)[key]? = some offset ↔ index[key]? = some offset))
    (missing : ∀ (index : Index) (key : EntityId), key ≠ written → index[key]? = none →
      (update index)[key]? = none) :
    Keeps (Retains (δ := δ) written kept original) (reindex update) (fun _ => True) := by
  intro store ⟨device, isOpen, sameEntries, sameMissing⟩
  refine ⟨⟨device, isOpen, ?_, ?_⟩, trivial⟩
  · intro key offset isKept
    exact (entries _ sameEntries key offset isKept).trans (sameEntries key offset isKept)
  · intro key different absent
    exact missing _ key different (sameMissing key different absent)

theorem length_of_valid {number : UInt32} {limit length : Nat}
    (valid : validateLength number limit = .ok length) : length = number.toNat := by
  rw [validateLength] at valid
  split at valid
  · cases valid
  · split at valid <;> cases valid
    rfl

theorem keeps_expectLength (offset : Nat) (found : Except Corruption Nat) :
    Keeps (Retains (δ := δ) written kept original) (expectLength offset found)
      (fun length => found = .ok length) := by
  cases found with
  | ok length => exact keeps_pure rfl
  | error fault => exact keeps_throw _

theorem keeps_readLength (offset : Nat) :
    Keeps (Retains (δ := δ) written kept original) (readLength offset)
      (fun length => (∀ index, index < lengthSize → kept (offset + keySize + index)) →
        length = readBigEndian32 original.device.bytes (offset + keySize)) := by
  refine (keeps_onDevice (FaithfulDevice.keeps_readInto _ _)).bind fun data same =>
    keeps_pure fun inside => ?_
  have place (index : Nat) (bound : index < lengthSize) :
      byteAt data index = byteAt original.device.bytes (offset + keySize + index) :=
    same index bound (inside index bound)
  rw [readBigEndian32, place _ (by decide), place _ (by decide), place _ (by decide),
    place _ (by decide)]
  rfl

theorem keeps_readValidLength (offset : Nat) :
    Keeps (Retains (δ := δ) written kept original) (readValidLength offset)
      (fun length => (∀ index, index < lengthSize → kept (offset + keySize + index)) →
        length = (readBigEndian32 original.device.bytes (offset + keySize)).toNat) := by
  refine (keeps_readLength offset).bind fun number known => (keeps_view _).bind fun limit _ =>
    (keeps_expectLength _ _).mono fun length valid inside => ?_
  rw [← known inside]
  exact length_of_valid valid

theorem keeps_syncIfConfigured :
    Keeps (Retains (δ := δ) written kept original) syncIfConfigured (fun _ => True) := by
  refine (keeps_view _).bind fun configured _ => ?_
  cases configured with
  | true => exact keeps_onDevice FaithfulDevice.keeps_sync
  | false => exact keeps_pure trivial

/-- No kept position is the place of the written key's record, so none is found there. -/
theorem keeps_offset? (unled : ∀ offset, kept offset → original.index[written]? ≠ some offset) :
    Keeps (Retains (δ := δ) written kept original) (offset? written)
      (fun found => ∀ offset, found = some offset → ¬kept offset) := by
  intro store retains
  refine ⟨retains, ?_⟩
  intro offset found isKept
  exact unled offset isKept ((retains.entries written offset isKept).mp found)

/-! ## Writes above a bound -/

variable {bound : Nat}

theorem keeps_shiftAfter {source : Nat} {delta : Int} (belowSource : bound ≤ source)
    (belowTarget : (bound : Int) ≤ source + delta) :
    Keeps (Retains (δ := δ) written (· < bound) original) (shiftAfter source delta)
      (fun _ => True) := by
  refine (keeps_view _).bind fun config _ => (keeps_onDevice
    (FaithfulDevice.keeps_shiftTail _ config.shiftBufferLength_pos belowSource belowTarget)).bind
      fun moved _ => (keeps_reindex ?_ ?_).bind fun _ _ => keeps_pure trivial
  · intro index _ key offset below
    rw [Index.getElem?_shiftFrom]
    cases index[key]? with
    | none => rfl
    | some place =>
        simp only [Option.map_some, Option.some.injEq]
        split <;> omega
  · intro index key _ absent
    rw [Index.getElem?_shiftFrom, absent]
    rfl

section Write

variable (unled : ∀ offset, offset < bound → original.index[written]? ≠ some offset)
include unled

theorem keeps_append (payload : ByteArray) :
    Keeps (Retains (δ := δ) written (· < bound) original) (append written payload)
      (fun _ => True) := by
  refine (keeps_onDevice FaithfulDevice.keeps_size).bind fun size inside => ?_
  refine (keeps_onDevice (FaithfulDevice.keeps_writeAt ?_)).bind fun _ _ =>
    (keeps_onDevice (FaithfulDevice.keeps_writeAt ?_)).bind fun _ _ =>
      (keeps_reindex ?_ ?_).bind fun _ _ => keeps_count _
  · intro position below
    exact .inl (inside position below)
  · intro position below
    exact .inl (Nat.lt_add_right headerSize (inside position below))
  · intro index same key offset below
    rw [Std.ExtTreeMap.getElem?_insert]
    simp only [Std.LawfulEqCmp.compare_eq_iff_eq]
    by_cases sameKey : written = key
    · subst sameKey
      have unequal : size ≠ offset := Nat.ne_of_gt (inside offset below)
      have absent := mt (same written offset below).mp (unled offset below)
      simp only [if_true, Option.some.injEq, unequal, absent]
    · rw [if_neg sameKey]
  · intro index key different absent
    rw [Std.ExtTreeMap.getElem?_insert]
    simp only [Std.LawfulEqCmp.compare_eq_iff_eq]
    rw [if_neg (Ne.symm different), absent]

omit unled in
theorem keeps_update {offset : Nat} (above : bound ≤ offset) (payload : ByteArray) :
    Keeps (Retains (δ := δ) written (· < bound) original) (update offset payload)
      (fun _ => True) := by
  refine (keeps_readValidLength _).bind fun length _ => ?_
  have writePayload : Keeps (Retains (δ := δ) written (· < bound) original)
      (onDevice (ByteDevice.writeAt (offset + headerSize) payload)) (fun _ => True) :=
    keeps_onDevice (FaithfulDevice.keeps_writeAt fun position below => .inl (by omega))
  by_cases same : length = payload.size
  · simp only [if_pos same]
    exact writePayload.bind fun _ _ => keeps_count _
  · simp only [if_neg same]
    exact (keeps_shiftAfter (by omega) (by omega)).bind fun _ _ =>
      (keeps_count _).bind fun _ _ =>
        (keeps_onDevice (FaithfulDevice.keeps_writeAt fun position below =>
          .inl (by omega))).bind fun _ _ => writePayload.bind fun _ _ => keeps_count _

/-- A put leaves alone what lies before the place of its record. -/
theorem keeps_put (payload : ByteArray) :
    Keeps (Retains (δ := δ) written (· < bound) original) (put written payload)
      (fun _ => True) := by
  refine (keeps_view _).bind fun limit _ => ?_
  by_cases large : limit < payload.size
  · simp only [if_pos large]
    exact keeps_throw_bind _ _
  · simp only [if_neg large]
    refine keeps_requireOpen.bind fun _ _ => (keeps_offset? unled).bind fun found placed => ?_
    cases found with
    | none => exact (keeps_append unled payload).bind fun _ _ => keeps_syncIfConfigured
    | some offset =>
        exact (keeps_update (Nat.le_of_not_lt (placed offset rfl)) payload).bind fun _ _ =>
          keeps_syncIfConfigured

theorem keeps_erase :
    Keeps (Retains (δ := δ) written (· < bound) original) (reindex (·.erase written))
      (fun _ => True) := by
  refine keeps_reindex ?_ ?_
  · intro index same key offset below
    rw [Std.ExtTreeMap.getElem?_erase]
    simp only [Std.LawfulEqCmp.compare_eq_iff_eq]
    by_cases sameKey : written = key
    · subst sameKey
      have absent := mt (same written offset below).mp (unled offset below)
      simp only [if_true, absent, reduceCtorEq]
    · rw [if_neg sameKey]
  · intro index key _ absent
    rw [Std.ExtTreeMap.getElem?_erase, absent]
    exact ite_self none

/-- A removal leaves alone what lies before the removed record. -/
theorem keeps_remove :
    Keeps (Retains (δ := δ) written (· < bound) original) (remove written)
      (fun _ => True) := by
  refine keeps_requireOpen.bind fun _ _ => (keeps_offset? unled).bind fun found placed => ?_
  cases found with
  | none => exact keeps_pure trivial
  | some offset =>
      have above : bound ≤ offset := Nat.le_of_not_lt (placed offset rfl)
      exact (keeps_erase unled).bind fun _ _ => (keeps_readValidLength _).bind fun length _ =>
        (keeps_shiftAfter (by omega) (by omega)).bind fun _ _ =>
          keeps_syncIfConfigured.bind fun _ _ => (keeps_count _).bind fun _ _ =>
            (keeps_count _).bind fun _ _ => keeps_pure trivial

end Write

end Store

end PackedRecords
