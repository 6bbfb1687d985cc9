import PackedRecords.Proofs.Record.Header
import PackedRecords.Proofs.Store.TailShift
import PackedRecords.Store.Basic

/-! # What a store does in memory

The effect of each operation on a store whose index leads to one record among other
bytes: the bytes before and after the record stay as they are, and the counters say
what was done.
-/

namespace PackedRecords

namespace Store

/-! ## Single steps -/

section Steps

variable {δ α : Type} {index : Index} {config : Config} {stats : Stats} {isOpen : Bool}

theorem onDevice_run {call : DeviceM δ α} {device after : δ} {value : α}
    (ran : call device = .ok value after) :
    onDevice call ⟨device, index, config, stats, isOpen⟩ =
      .ok value ⟨after, index, config, stats, isOpen⟩ := by
  simp only [onDevice, ran]

theorem view_run (read : Store δ → α) (store : Store δ) :
    view read store = .ok (read store) store :=
  rfl

theorem count_run (update : Stats → Stats) (device : δ) :
    count update ⟨device, index, config, stats, isOpen⟩ =
      .ok () ⟨device, index, config, update stats, isOpen⟩ :=
  rfl

theorem reindex_run (update : Index → Index) (device : δ) :
    reindex update ⟨device, index, config, stats, isOpen⟩ =
      .ok () ⟨device, update index, config, stats, isOpen⟩ :=
  rfl

theorem requireOpen_run (device : δ) :
    requireOpen (⟨device, index, config, stats, true⟩ : Store δ) =
      .ok () ⟨device, index, config, stats, true⟩ :=
  rfl

theorem offset?_run (key : EntityId) (device : δ) :
    offset? key (⟨device, index, config, stats, isOpen⟩ : Store δ) =
      .ok index[key]? ⟨device, index, config, stats, isOpen⟩ :=
  rfl

theorem mapM_run {β ε σ : Type} {action : α → EStateM ε σ β} {origin : β → α}
    {values : List β} {state : σ}
    (each : ∀ value ∈ values, action (origin value) state = .ok value state) :
    (values.map origin).mapM action state = .ok values state := by
  induction values with
  | nil => rfl
  | cons value rest induction =>
      rcases List.forall_mem_cons.mp each with ⟨first, others⟩
      rw [List.map_cons, List.mapM_cons, bind_of_ok first, bind_of_ok (induction others),
        pure_run]

theorem syncIfConfigured_run (store : Store Memory) :
    syncIfConfigured store = .ok () store := by
  rw [syncIfConfigured, bind_of_ok (view_run _ store)]
  cases store.config.syncOnWrite <;> rfl

end Steps

/-! ## One record among other bytes -/

section Record

variable {index : Index} {config : Config} {stats : Stats} {isOpen : Bool}
  (front back : ByteArray) (record : Record)

/-- The length field between the key and the payload. -/
theorem bytes_eq_length :
    front ++ record.encode ++ back =
      front ++ record.key.toByteArray ++ bigEndian32 (UInt32.ofNat record.payload.size) ++
        (record.payload ++ back) := by
  simp only [Record.encode_eq, ByteArray.append_assoc]

/-- The payload behind the header. -/
theorem bytes_eq_payload :
    front ++ record.encode ++ back =
      front ++ record.header.encode ++ record.payload ++ back := by
  simp only [Record.encode_eq_header, ByteArray.append_assoc]

theorem size_front_key : (front ++ record.key.toByteArray).size = front.size + keySize := by
  rw [ByteArray.size_append, EntityId.size_toByteArray, keySize_eq]

theorem size_front_header :
    (front ++ record.header.encode).size = front.size + headerSize := by
  rw [ByteArray.size_append, Header.size_encode]

theorem readLength_run :
    readLength front.size
        (⟨⟨front ++ record.encode ++ back⟩, index, config, stats, isOpen⟩ : Store Memory) =
      .ok (UInt32.ofNat record.payload.size)
        ⟨⟨front ++ record.encode ++ back⟩, index, config, stats, isOpen⟩ := by
  let number := UInt32.ofNat record.payload.size
  have field : (front ++ record.encode ++ back).extract (front.size + keySize)
      (front.size + keySize + lengthSize) = bigEndian32 number := by
    rw [bytes_eq_length, ← size_front_key front record]
    exact extract_middle _ (bigEndian32 number) _
  have inside : front.size + keySize + lengthSize ≤ (front ++ record.encode ++ back).size := by
    rw [ByteArray.size_append, ByteArray.size_append, Record.size_encode, Record.size_eq,
      headerSize]
    omega
  have value : readBigEndian32 (bigEndian32 number) 0 = number := by
    have read := readBigEndian32_append ByteArray.empty ByteArray.empty number
    rwa [ByteArray.empty_append, ByteArray.append_empty] at read
  rw [readLength, bind_of_ok (onDevice_run (Memory.readInto_run inside)), field, value, pure_run]

theorem readValidLength_run (short : record.payload.size ≤ config.payloadLimit) :
    readValidLength front.size
        (⟨⟨front ++ record.encode ++ back⟩, index, config, stats, isOpen⟩ : Store Memory) =
      .ok record.payload.size
        ⟨⟨front ++ record.encode ++ back⟩, index, config, stats, isOpen⟩ := by
  have small := Nat.le_trans short config.payloadLimit_le
  have length := Record.toNat_length small
  have unsigned : maxPayloadSize < 0x80000000 := by decide
  rw [readValidLength, bind_of_ok (readLength_run front back record),
    bind_of_ok (view_run _ _), validateLength, length, if_neg (by omega),
    if_neg (Nat.not_lt_of_le short), expectLength, pure_run]

theorem readPayload_run :
    onDevice (ByteDevice.readAt (front.size + headerSize) record.payload.size)
        (⟨⟨front ++ record.encode ++ back⟩, index, config, stats, isOpen⟩ : Store Memory) =
      .ok record.payload
        ⟨⟨front ++ record.encode ++ back⟩, index, config, stats, isOpen⟩ := by
  have inside : front.size + headerSize + record.payload.size ≤
      (front ++ record.encode ++ back).size := by
    rw [ByteArray.size_append, ByteArray.size_append, Record.size_encode, Record.size_eq]
    omega
  have payload : (front ++ record.encode ++ back).extract (front.size + headerSize)
      (front.size + headerSize + record.payload.size) = record.payload := by
    rw [bytes_eq_payload, ← size_front_header front record]
    exact extract_middle _ record.payload _
  rw [onDevice_run (Memory.readAt_run inside), payload]

end Record

/-! ## Operations on a record -/

section Operations

variable {index : Index} {config : Config} {stats : Stats} (front back : ByteArray)
  {record : Record} {key : EntityId}

theorem get_run (short : record.payload.size ≤ maxPayloadSize)
    (found : index[key]? = some front.size) :
    get key
        (⟨⟨front ++ record.encode ++ back⟩, index, config, stats, true⟩ : Store Memory) =
      .ok (some record.payload)
        ⟨⟨front ++ record.encode ++ back⟩, index, config,
          (stats.countLookup).countRead record.payload.size, true⟩ := by
  have length := Record.toNat_length short
  rw [get, bind_of_ok (count_run _ _), bind_of_ok (requireOpen_run _),
    bind_of_ok (offset?_run key _), found]
  simp only []
  rw [bind_of_ok (readLength_run front back record), length,
    bind_of_ok (readPayload_run front back record), bind_of_ok (count_run _ _), pure_run]

theorem get_run_none (bytes : ByteArray) (missing : index[key]? = none) :
    get key (⟨⟨bytes⟩, index, config, stats, true⟩ : Store Memory) =
      .ok none ⟨⟨bytes⟩, index, config, stats.countLookup, true⟩ := by
  rw [get, bind_of_ok (count_run _ _), bind_of_ok (requireOpen_run _),
    bind_of_ok (offset?_run key _), missing]
  rfl

theorem append_run (bytes : ByteArray) (key : EntityId) (payload : ByteArray) :
    append key payload (⟨⟨bytes⟩, index, config, stats, true⟩ : Store Memory) =
      .ok () ⟨⟨bytes ++ Record.encode ⟨key, payload⟩⟩, index.insert key bytes.size, config,
        stats.countAppend (headerSize + payload.size), true⟩ := by
  let header : Header := ⟨key, UInt32.ofNat payload.size⟩
  have size : (bytes ++ header.encode).size = bytes.size + headerSize := by
    rw [ByteArray.size_append, Header.size_encode]
  have written : bytes ++ header.encode ++ payload = bytes ++ Record.encode ⟨key, payload⟩ := by
    rw [Record.encode_eq_header, ByteArray.append_assoc]
    rfl
  rw [append, bind_of_ok (onDevice_run (Memory.size_run bytes)),
    bind_of_ok (onDevice_run (Memory.writeAt_run header.encode (Nat.le_refl bytes.size))),
    overwrite_at_end, ← size,
    bind_of_ok (onDevice_run (Memory.writeAt_run payload (Nat.le_refl _))),
    overwrite_at_end, written, bind_of_ok (reindex_run _ _), count_run]

theorem put_run_large {δ : Type} [ByteDevice δ] {payload : ByteArray}
    (large : config.payloadLimit < payload.size) {isOpen : Bool} (device : δ) :
    put key payload (⟨device, index, config, stats, isOpen⟩ : Store δ) =
      .error (.payloadTooLarge payload.size config.payloadLimit)
        ⟨device, index, config, stats, isOpen⟩ := by
  rw [put, bind_of_ok (view_run _ _)]
  simp only [if_pos large]
  rw [bind_of_error (throw_run _)]

/-- A key without a record gets one at the end. -/
theorem put_eq_append {δ : Type} [ByteDevice δ] {payload : ByteArray}
    (short : payload.size ≤ config.payloadLimit) (device : δ) (missing : index[key]? = none) :
    put key payload (⟨device, index, config, stats, true⟩ : Store δ) =
      (append key payload >>= fun _ => syncIfConfigured)
        ⟨device, index, config, stats, true⟩ := by
  rw [put, bind_of_ok (view_run _ _)]
  simp only [if_neg (Nat.not_lt_of_le short)]
  rw [bind_of_ok (requireOpen_run _), bind_of_ok (offset?_run key _), missing]

/-- The record of a key is updated. -/
theorem put_eq_update {δ : Type} [ByteDevice δ] {payload : ByteArray}
    (short : payload.size ≤ config.payloadLimit) (device : δ) {offset : Nat}
    (found : index[key]? = some offset) :
    put key payload (⟨device, index, config, stats, true⟩ : Store δ) =
      (update offset payload >>= fun _ => syncIfConfigured)
        ⟨device, index, config, stats, true⟩ := by
  rw [put, bind_of_ok (view_run _ _)]
  simp only [if_neg (Nat.not_lt_of_le short)]
  rw [bind_of_ok (requireOpen_run _), bind_of_ok (offset?_run key _), found]

theorem put_run_append {payload : ByteArray} (short : payload.size ≤ config.payloadLimit)
    (bytes : ByteArray) (missing : index[key]? = none) :
    put key payload (⟨⟨bytes⟩, index, config, stats, true⟩ : Store Memory) =
      .ok () ⟨⟨bytes ++ Record.encode ⟨key, payload⟩⟩, index.insert key bytes.size, config,
        stats.countAppend (headerSize + payload.size), true⟩ := by
  rw [put_eq_append short _ missing, bind_of_ok (append_run bytes key payload),
    syncIfConfigured_run]

theorem put_run_update {payload : ByteArray} (short : payload.size ≤ config.payloadLimit)
    {memory : Memory} {offset : Nat} {after : Store Memory} (found : index[key]? = some offset)
    (updated : update offset payload ⟨memory, index, config, stats, true⟩ = .ok () after) :
    put key payload (⟨memory, index, config, stats, true⟩ : Store Memory) = .ok () after := by
  rw [put_eq_update short _ found, bind_of_ok updated, syncIfConfigured_run]

/-- A payload of the same length is replaced where it stands. -/
theorem update_run_same (short : record.payload.size ≤ config.payloadLimit)
    {payload : ByteArray} (same : record.payload.size = payload.size) :
    update front.size payload
        (⟨⟨front ++ record.encode ++ back⟩, index, config, stats, true⟩ : Store Memory) =
      .ok () ⟨⟨front ++ Record.encode ⟨record.key, payload⟩ ++ back⟩, index, config,
        stats.countInPlaceUpdate payload.size, true⟩ := by
  have header : Record.header ⟨record.key, payload⟩ = record.header := by
    simp only [Record.header, same]
  have inside : front.size + headerSize ≤ (front ++ record.encode ++ back).size := by
    rw [ByteArray.size_append, ByteArray.size_append, Record.size_encode, Record.size_eq]
    omega
  have written : overwrite (front ++ record.encode ++ back) (front.size + headerSize) payload =
      front ++ Record.encode ⟨record.key, payload⟩ ++ back := by
    rw [bytes_eq_payload, bytes_eq_payload, header, ← size_front_header front record]
    exact overwrite_middle _ _ same
  rw [update, bind_of_ok (readValidLength_run front back record short)]
  simp only [if_pos same]
  rw [bind_of_ok (onDevice_run (Memory.writeAt_run payload inside)), written, count_run]

theorem shiftAfter_run (old : ByteArray) (newSize : Nat) (index : Index) (config : Config)
    (stats : Stats) :
    ∃ kept : ByteArray, kept.size = newSize ∧
      shiftAfter (front.size + old.size) ((newSize : Int) - old.size)
          (⟨⟨front ++ old ++ back⟩, index, config, stats, true⟩ : Store Memory) =
        .ok back.size ⟨⟨front ++ kept ++ back⟩,
          index.shiftFrom (front.size + old.size) ((newSize : Int) - old.size), config, stats,
          true⟩ := by
  rcases shiftTail_run config.shiftBufferLength
      config.shiftBufferLength_pos front old back newSize with ⟨kept, size, shifted⟩
  refine ⟨kept, size, ?_⟩
  rw [shiftAfter, bind_of_ok (view_run _ _), bind_of_ok (onDevice_run shifted),
    bind_of_ok (reindex_run _ _), pure_run]

/-- A payload of another length moves what follows the record. -/
theorem update_run_other (short : record.payload.size ≤ config.payloadLimit)
    {payload : ByteArray} (other : record.payload.size ≠ payload.size) :
    update front.size payload
        (⟨⟨front ++ record.encode ++ back⟩, index, config, stats, true⟩ : Store Memory) =
      .ok () ⟨⟨front ++ Record.encode ⟨record.key, payload⟩ ++ back⟩,
        index.shiftFrom (front.size + headerSize + record.payload.size)
          ((payload.size : Int) - record.payload.size), config,
        (stats.countShift back.size).countShiftedUpdate (headerSize + payload.size), true⟩ := by
  let number := UInt32.ofNat payload.size
  have headSize := size_front_header front record
  rcases shiftAfter_run (front ++ record.header.encode) back
      record.payload payload.size index config stats with ⟨kept, keptSize, shifted⟩
  rw [headSize] at shifted
  have lengthWritten : overwrite (front ++ record.header.encode ++ kept ++ back)
      (front.size + keySize) (bigEndian32 number) =
        front ++ Header.encode ⟨record.key, number⟩ ++ kept ++ back := by
    have parts (length : UInt32) : front ++ Header.encode ⟨record.key, length⟩ ++ kept ++ back =
        front ++ record.key.toByteArray ++ bigEndian32 length ++ (kept ++ back) := by
      simp only [Header.encode_eq, ByteArray.append_assoc]
    have before := parts (UInt32.ofNat record.payload.size)
    rw [show record.header = ⟨record.key, UInt32.ofNat record.payload.size⟩ from rfl, before,
      parts, ← size_front_key front record]
    exact overwrite_middle _ _ rfl
  have payloadWritten : overwrite (front ++ Header.encode ⟨record.key, number⟩ ++ kept ++ back)
      (front.size + headerSize) payload =
        front ++ Record.encode ⟨record.key, payload⟩ ++ back := by
    have place := size_front_header front ⟨record.key, payload⟩
    rw [bytes_eq_payload, ← place]
    exact overwrite_middle _ _ keptSize
  have lengthInside : front.size + keySize ≤
      (front ++ record.header.encode ++ kept ++ back).size := by
    simp only [ByteArray.size_append, Header.size_encode, headerSize]
    omega
  have payloadInside : front.size + headerSize ≤
      (front ++ Header.encode ⟨record.key, number⟩ ++ kept ++ back).size := by
    simp only [ByteArray.size_append, Header.size_encode]
    omega
  rw [update, bind_of_ok (readValidLength_run front back record short)]
  simp only [if_neg other]
  rw [bytes_eq_payload, bind_of_ok shifted, bind_of_ok (count_run _ _),
    bind_of_ok (onDevice_run (Memory.writeAt_run _ lengthInside)), lengthWritten,
    bind_of_ok (onDevice_run (Memory.writeAt_run _ payloadInside)), payloadWritten, count_run]

/-- Removing a record closes the gap. -/
theorem remove_run (short : record.payload.size ≤ config.payloadLimit)
    (found : index[key]? = some front.size) :
    remove key
        (⟨⟨front ++ record.encode ++ back⟩, index, config, stats, true⟩ : Store Memory) =
      .ok true ⟨⟨front ++ back⟩,
        Index.shiftFrom (index.erase key) (front.size + record.size) (-(record.size : Int)), config,
        (stats.countShift back.size).countRemove, true⟩ := by
  have size := record.size_encode
  rcases shiftAfter_run front back record.encode 0 (index.erase key)
      config stats with ⟨kept, keptSize, shifted⟩
  have nothing : kept = ByteArray.empty := ByteArray.size_eq_zero_iff.mp keptSize
  rw [nothing, ByteArray.append_empty, size, Int.natCast_zero, Int.zero_sub] at shifted
  rw [remove, bind_of_ok (requireOpen_run _), bind_of_ok (offset?_run key _), found]
  simp only []
  rw [bind_of_ok (reindex_run _ _),
    bind_of_ok (readValidLength_run front back record short), ← Record.size_eq,
    bind_of_ok shifted, bind_of_ok (syncIfConfigured_run _), bind_of_ok (count_run _ _),
    bind_of_ok (count_run _ _), pure_run]

theorem remove_run_none (bytes : ByteArray) (missing : index[key]? = none) :
    remove key (⟨⟨bytes⟩, index, config, stats, true⟩ : Store Memory) =
      .ok false ⟨⟨bytes⟩, index, config, stats, true⟩ := by
  rw [remove, bind_of_ok (requireOpen_run _), bind_of_ok (offset?_run key _), missing]
  rfl

end Operations

end Store

end PackedRecords
