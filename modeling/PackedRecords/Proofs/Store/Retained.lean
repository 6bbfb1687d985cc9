import PackedRecords.Proofs.Store.Interrupted
import PackedRecords.Proofs.Store.LedgerRun

/-! # Looking up what has been retained

A look-up reads one record. So it finds in any store that has kept this record, and the
index entry that leads to it, what it found in the original store, whatever has become
of the other bytes.
-/

namespace PackedRecords

/-! ## The place of a record among others -/

/-- A record stands either among the first records of a list or among the others. -/
theorem split_cases {before after front back : List Record} {record : Record}
    (same : before ++ record :: after = front ++ back) :
    (∃ between, front = before ++ record :: between) ∨
      ∃ between, before = front ++ between ∧ back = between ++ record :: after := by
  rcases List.append_eq_append_iff.mp same with ⟨between, frontSplit, rest⟩ | ⟨between, split⟩
  · cases between with
    | nil => exact .inr ⟨[], by simpa using frontSplit.symm, by simpa using rest.symm⟩
    | cons first others =>
        cases rest
        exact .inl ⟨others, frontSplit⟩
  · exact .inr ⟨between, split⟩

namespace Ledger

/-- The last record of a key covers the position. -/
def Occupies (ledger : Ledger) (key : EntityId) (position : Nat) : Prop :=
  ∃ before record after, ledger.records = before ++ record :: after ∧ record.key = key ∧
    key ∉ keysOf after ∧ (image before).size ≤ position ∧
    position < (image before).size + record.size

variable {ledger : Ledger} {key : EntityId} {position : Nat}

theorem Occupies.lt_size (occupies : ledger.Occupies key position) :
    position < (image ledger.records).size := by
  rcases occupies with ⟨before, record, after, split, _, _, _, above⟩
  rw [split, size_image_append, size_image_cons]
  omega

/-- A record that starts among the first records ends among them. -/
theorem Occupies.lt_of_lastOffset? (occupies : ledger.Occupies key position)
    {front back : List Record} (split : ledger.records = front ++ back) {offset : Nat}
    (found : lastOffset? key 0 ledger.records = some offset)
    (below : offset < (image front).size) : position < (image front).size := by
  rcases occupies with ⟨before, record, after, ownSplit, same, last, _, above⟩
  rw [ownSplit, lastOffset?_split same last, Nat.zero_add] at found
  cases found
  rcases split_cases (ownSplit.symm.trans split) with ⟨between, inFront⟩ | ⟨between, past, _⟩
  · rw [inFront, size_image_append, size_image_cons]
    omega
  · rw [past, size_image_append] at below
    omega

theorem Occupies.lt_of_split (occupies : ledger.Occupies key position)
    {before after : List Record} {record : Record}
    (split : ledger.records = before ++ record :: after) (same : record.key = key)
    (last : key ∉ keysOf after) : position < (image before).size + record.size := by
  have found : lastOffset? key 0 ledger.records = some (image before).size := by
    rw [split, lastOffset?_split same last, Nat.zero_add]
  have regrouped : ledger.records = (before ++ [record]) ++ after := by
    rw [split, List.append_assoc, List.singleton_append]
  have size : (image (before ++ [record])).size = (image before).size + record.size := by
    rw [size_image_append, size_image_cons, image_nil, ByteArray.size_empty, Nat.add_zero]
  have positive := record.size_pos
  have inside := occupies.lt_of_lastOffset? regrouped found (by omega)
  rwa [size] at inside

/-- The records of two keys do not meet. -/
theorem Occupies.apart (occupies : ledger.Occupies key position)
    {before after : List Record} {record : Record}
    (split : ledger.records = before ++ record :: after) (different : key ≠ record.key) :
    position < (image before).size ∨ (image before).size + record.size ≤ position := by
  rcases occupies with ⟨front, own, back, ownSplit, same, last, below, above⟩
  rcases split_cases (ownSplit.symm.trans split) with ⟨between, inFront⟩ | ⟨between, past, rest⟩
  · left
    rw [inFront, size_image_append, size_image_cons]
    omega
  · right
    cases between with
    | nil =>
        cases rest
        exact absurd same.symm different
    | cons first others =>
        cases rest
        rw [past, size_image_append, size_image_cons] at below
        omega

end Ledger

/-- Bytes that stand at kept positions stand there still, between others. -/
theorem AgreeOn.exists_split {kept : Nat → Prop} {front middle back bytes : ByteArray}
    (agree : AgreeOn kept (front ++ middle ++ back) bytes) (something : 0 < middle.size)
    (whole : ∀ position, front.size ≤ position → position < front.size + middle.size →
      kept position) :
    ∃ first last : ByteArray, bytes = first ++ middle ++ last ∧ first.size = front.size := by
  have inside := (agree _ (whole (front.size + middle.size - 1) (by omega) (by omega))).1
  refine ⟨bytes.extract 0 front.size, bytes.extract (front.size + middle.size) bytes.size,
    ?_, ?_⟩
  · have same : bytes.extract front.size (front.size + middle.size) = middle := by
      apply ext_byteAt
      · rw [ByteArray.size_extract]
        omega
      · intro index bound
        rw [ByteArray.size_extract] at bound
        rw [byteAt_extract, if_pos (by omega),
          (agree _ (whole (front.size + index) (by omega) (by omega))).2,
          byteAt_append, if_pos (by rw [ByteArray.size_append]; omega), byteAt_append,
          if_neg (by omega), Nat.add_sub_cancel_left]
    calc bytes
      _ = bytes.extract 0 bytes.size := ByteArray.extract_zero_size.symm
      _ = bytes.extract 0 (front.size + middle.size) ++
          bytes.extract (front.size + middle.size) bytes.size :=
        (extract_append_extract bytes (by omega) (by omega)).symm
      _ = bytes.extract 0 front.size ++ middle ++
          bytes.extract (front.size + middle.size) bytes.size := by
        rw [← extract_append_extract bytes (Nat.zero_le front.size) (Nat.le_add_right ..), same]
  · rw [ByteArray.size_extract]
    omega

namespace Store

variable {δ : Type} [ByteDevice δ] [FaithfulDevice δ]

/-! ## Looking up -/

/-- What `get` answers as soon as the device serves every call. -/
def lookUp (store : Store δ) (key : EntityId) : Except StoreError (Option ByteArray) :=
  match get key store.inMemory with
  | .ok found _ => .ok found
  | .error failure _ => .error failure

section Found

variable {store : Store δ} {key : EntityId} (isOpen : store.isOpen = true)
include isOpen

theorem lookUp_of_record {front back : ByteArray} {record : Record}
    (held : FaithfulDevice.contents store.device = front ++ record.encode ++ back)
    (short : record.payload.size ≤ maxPayloadSize) (led : store.index[key]? = some front.size) :
    store.lookUp key = .ok (some record.payload) := by
  rcases store with ⟨device, index, config, stats, _⟩
  cases isOpen
  have same : inMemory ⟨device, index, config, stats, true⟩ =
      ⟨⟨front ++ record.encode ++ back⟩, index, config, stats, true⟩ :=
    congrArg (fun bytes => (⟨⟨bytes⟩, index, config, stats, true⟩ : Store Memory)) held
  rw [lookUp, same, get_run front back short led]

theorem lookUp_of_absent (absent : store.index[key]? = none) : store.lookUp key = .ok none := by
  rcases store with ⟨device, index, config, stats, _⟩
  cases isOpen
  have ran : get key (inMemory ⟨device, index, config, stats, true⟩) = .ok none _ :=
    get_run_none (FaithfulDevice.contents device) absent
  rw [lookUp, ran]

end Found

end Store

/-! ## Described stores -/

namespace Ledger.Describes

variable {δ : Type} [ByteDevice δ] [FaithfulDevice δ] {ledger : Ledger} {store : Store δ}
  {key : EntityId} (describes : ledger.Describes store)
include describes

/-- The record of a key in use lies where the index says, on any device. -/
theorem exists_record (inUse : key ∈ ledger.live) :
    ∃ before record after, ledger.records = before ++ record :: after ∧ record.key = key ∧
      key ∉ keysOf after ∧ store.index[key]? = some (image before).size ∧
      FaithfulDevice.contents store.device = image before ++ record.encode ++ image after ∧
      record.payload.size ≤ store.config.payloadLimit := by
  rcases store with ⟨device, index, config, stats, isOpen⟩
  cases describes.isOpen
  exact (describes_inMemory.mpr describes).exists_split inUse

theorem index_eq_none (unused : key ∉ ledger.live) : store.index[key]? = none := by
  rw [describes.index, offset?, if_neg unused]

theorem not_mem_live_of_index (missing : store.index[key]? = none) : key ∉ ledger.live := by
  intro inUse
  rcases describes.exists_record inUse with ⟨_, _, _, _, _, _, led, _⟩
  rw [missing] at led
  cases led

/-- A look-up finds what the ledger has. -/
theorem lookUp_eq (key : EntityId) : store.lookUp key = .ok (ledger.payload? key) := by
  rw [payload?]
  by_cases inUse : key ∈ ledger.live
  · rcases describes.exists_record inUse with
      ⟨before, record, after, split, same, last, led, held, short⟩
    rw [if_pos inUse, split, lastPayload?_split same last]
    exact Store.lookUp_of_record describes.isOpen held
      (Nat.le_trans short store.config.payloadLimit_le) led
  · rw [if_neg inUse]
    exact Store.lookUp_of_absent describes.isOpen (describes.index_eq_none inUse)

end Ledger.Describes

/-- What is retained of the record of a key is enough to look it up. -/
theorem Store.Retains.lookUp_eq {δ : Type} [ByteDevice δ] [FaithfulDevice δ] {store : Store δ}
    {original : Store Memory} {written key : EntityId} {kept : Nat → Prop}
    (retains : Store.Retains written kept original store) {ledger : Ledger}
    (describes : ledger.Describes original) (known : key ∈ ledger.live ∨ key ≠ written)
    (whole : ∀ position, ledger.Occupies key position → kept position) :
    store.lookUp key = .ok (ledger.payload? key) := by
  have isOpen := retains.isOpen.trans describes.isOpen
  rw [Ledger.payload?]
  by_cases inUse : key ∈ ledger.live
  · rcases describes.exists_record inUse with
      ⟨before, record, after, split, same, last, led, held, short⟩
    have occupied (position : Nat) (below : (image before).size ≤ position)
        (above : position < (image before).size + record.encode.size) : kept position := by
      rw [Record.size_encode] at above
      exact whole position ⟨before, record, after, split, same, last, below, above⟩
    have positive : 0 < record.encode.size := by
      rw [Record.size_encode]
      exact record.size_pos
    have stillLed := (retains.entries key _ (occupied _ (Nat.le_refl _) (by omega))).mpr led
    have agree := retains.device.agree
    change AgreeOn kept (FaithfulDevice.contents original.device) _ at agree
    rw [held] at agree
    rcases agree.exists_split positive occupied with ⟨first, rest, stillHeld, place⟩
    rw [← place] at stillLed
    rw [if_pos inUse, split, lastPayload?_split same last]
    exact Store.lookUp_of_record isOpen stillHeld
      (Nat.le_trans short original.config.payloadLimit_le) stillLed
  · have different := known.resolve_left inUse
    have absent := retains.missing key different (describes.index_eq_none inUse)
    rw [if_neg inUse]
    exact Store.lookUp_of_absent isOpen absent

end PackedRecords
