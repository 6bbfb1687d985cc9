import PackedRecords.Proofs.Store.Retained

/-! # The parts of a write

A put of another length and a removal move the tail behind the record before they do
anything else to the bytes. Moving it up does not touch the record. What follows the
move writes only where the record itself stands, as does a put of the same length.
-/

namespace PackedRecords

namespace Store

variable {δ : Type} [ByteDevice δ]

/-- The part of a write that makes the record at `offset` longer or shorter, up to where
the tail behind it has been moved. -/
def moveTail (offset : Nat) (change : Nat → Int) : StoreM δ Nat := do
  let length ← readValidLength offset
  shiftAfter (offset + headerSize + length) (change length)

/-- The part of a put of another length up to where the new length has been written. -/
def resizeRecord (offset : Nat) (payload : ByteArray) : StoreM δ Unit := do
  let moved ← moveTail offset fun length => (payload.size : Int) - length
  count (Stats.countShift moved)
  onDevice (ByteDevice.writeAt (offset + keySize) (bigEndian32 (UInt32.ofNat payload.size)))

/-- What a put of another length does after the tail has been moved. -/
def finishPut (offset : Nat) (payload : ByteArray) (moved : Nat) : StoreM δ Unit := do
  count (Stats.countShift moved)
  onDevice (ByteDevice.writeAt (offset + keySize) (bigEndian32 (UInt32.ofNat payload.size)))
  onDevice (ByteDevice.writeAt (offset + headerSize) payload)
  count (Stats.countShiftedUpdate (headerSize + payload.size))
  syncIfConfigured

variable [FaithfulDevice δ]

/-- The positions on both sides of a stretch. -/
def Around (start stop size position : Nat) : Prop :=
  position < size ∧ (position < start ∨ stop ≤ position)

/-! ## Parts of writes -/

theorem follows_moveTail (offset : Nat) (change : Nat → Int) :
    Follows (δ := δ) (moveTail offset change) (moveTail offset change) :=
  (follows_readValidLength offset).bind fun _ => follows_shiftAfter _ _

/-- Between what stands before and after it, a record takes on any size. -/
theorem moveTail_run (index : Index) {config : Config} (stats : Stats)
    (front back : ByteArray) {record : Record}
    (short : record.payload.size ≤ config.payloadLimit) {change : Nat → Int} {newSize : Nat}
    (changed : change record.payload.size = (newSize : Int) - record.size) :
    ∃ kept : ByteArray, kept.size = newSize ∧
      moveTail front.size change
          (⟨⟨front ++ record.encode ++ back⟩, index, config, stats, true⟩ : Store Memory) =
        .ok back.size ⟨⟨front ++ kept ++ back⟩,
          index.shiftFrom (front.size + record.size) ((newSize : Int) - record.size), config,
          stats, true⟩ := by
  have size := record.size_encode
  rcases shiftAfter_run front back record.encode newSize index config stats with
    ⟨kept, keptSize, shifted⟩
  refine ⟨kept, keptSize, ?_⟩
  rw [size] at shifted
  rw [moveTail, bind_of_ok (readValidLength_run front back record short), changed,
    Nat.add_assoc, ← Record.size_eq, shifted]

theorem moveTail_ok {store shifted : Store δ} (sound : FaithfulDevice.Sound store.device)
    (isOpen : store.isOpen = true) {front back : ByteArray} {record : Record}
    (held : FaithfulDevice.contents store.device = front ++ record.encode ++ back)
    (short : record.payload.size ≤ store.config.payloadLimit) {change : Nat → Int}
    {newSize moved : Nat} (changed : change record.payload.size = (newSize : Int) - record.size)
    (ran : moveTail front.size change store = .ok moved shifted) :
    FaithfulDevice.Sound shifted.device ∧ ∃ kept : ByteArray, kept.size = newSize ∧
      shifted.inMemory = ⟨⟨front ++ kept ++ back⟩,
        store.index.shiftFrom (front.size + record.size) ((newSize : Int) - record.size),
        store.config, store.stats, true⟩ := by
  rcases store with ⟨device, index, config, stats, _⟩
  cases isOpen
  rcases (follows_moveTail front.size change).ok sound ran with ⟨shiftedSound, memoryRan⟩
  rcases moveTail_run index stats front back short changed with
    ⟨kept, keptSize, expected⟩
  have same : inMemory ⟨device, index, config, stats, true⟩ =
      ⟨⟨front ++ record.encode ++ back⟩, index, config, stats, true⟩ :=
    congrArg (fun bytes => (⟨⟨bytes⟩, index, config, stats, true⟩ : Store Memory)) held
  change moveTail front.size change (inMemory ⟨device, index, config, stats, true⟩) = _
    at memoryRan
  rw [same, expected] at memoryRan
  exact ⟨shiftedSound, kept, keptSize, (EStateM.Result.ok.inj memoryRan).2.symm⟩

theorem readBigEndian32_length (front back : ByteArray) (record : Record) :
    readBigEndian32 (front ++ record.encode ++ back) (front.size + keySize) =
      UInt32.ofNat record.payload.size := by
  rw [bytes_eq_length, ← size_front_key front record]
  exact readBigEndian32_append _ _ _

section Record

variable {original : Store Memory} {front back payload : ByteArray} {record : Record}
  (held : original.device.bytes = front ++ record.encode ++ back)
  (small : record.payload.size ≤ maxPayloadSize)
include held small

/-- The length is that of the record as long as the length field has been kept. -/
theorem keeps_readValidLength_of_record {written : EntityId} {kept : Nat → Prop}
    (inside : ∀ position, front.size ≤ position → position < front.size + headerSize →
      kept position) :
    Keeps (Retains (δ := δ) written kept original) (readValidLength front.size)
      (· = record.payload.size) := by
  refine (keeps_readValidLength front.size).mono fun length known => ?_
  rw [known, held, readBigEndian32_length, Record.toNat_length small]
  intro index bound
  refine inside _ (by omega) ?_
  rw [headerSize]
  omega

/-- While the tail moves up, the record in front of it is not touched. -/
theorem keeps_moveTail_up {written : EntityId} {change : Nat → Int}
    (grows : 0 ≤ change record.payload.size) :
    Keeps (Retains (δ := δ) written (· < front.size + record.size) original)
      (moveTail front.size change) (fun _ => True) := by
  have size := record.size_eq
  refine (keeps_readValidLength_of_record held small fun position _ bound => by omega).bind
    fun length same => ?_
  subst same
  exact keeps_shiftAfter (by omega) (by omega)

/-- Until the new length has been written, the old record is retained as a whole. -/
theorem retains_of_resizeRecord_error {written : EntityId}
    (grows : record.payload.size ≤ payload.size) {store after : Store δ} {failure : StoreError}
    (retains : Retains written (· < front.size + record.size) original store)
    (failed : resizeRecord front.size payload store = .error failure after) :
    Retains written (· < front.size + record.size) original after := by
  have moves : Keeps (Retains (δ := δ) written (· < front.size + record.size) original)
      (moveTail front.size fun length => (payload.size : Int) - length) (fun _ => True) :=
    keeps_moveTail_up held small (by omega)
  rcases cases_of_bind_error failed with early | ⟨moved, shifted, ran, late⟩
  · exact moves.error retains early
  · have shiftedRetains := (moves.ok retains ran).1
    rcases cases_of_bind_error late with impossible | ⟨_, counted, countRan, refused⟩
    · cases impossible
    · have countedRetains := ((keeps_count _).ok shiftedRetains countRan).1
      rcases inMemory_of_error (.writeAt _ _) (fun _ => .done) rfl countedRetains.device.sound
        refused with ⟨finalSound, same⟩
      exact countedRetains.of_same finalSound same

/-- A put of the same length writes nothing but the payload. -/
theorem keeps_put_inPlace (led : original.index[record.key]? = some front.size)
    (same : record.payload.size = payload.size) :
    Keeps (Retains (δ := δ) record.key
        (Around (front.size + headerSize) (front.size + record.size) original.device.bytes.size)
        original)
      (put record.key payload) (fun _ => True) := by
  have size := record.size_eq
  have total : original.device.bytes.size = front.size + record.size + back.size := by
    rw [held, ByteArray.size_append, ByteArray.size_append, Record.size_encode]
  have inHeader (position : Nat) (bound : position < front.size + headerSize) :
      Around (front.size + headerSize) (front.size + record.size) original.device.bytes.size
        position := ⟨by omega, .inl bound⟩
  have positive := headerSize_pos
  have updated : Keeps (Retains (δ := δ) record.key (Around (front.size + headerSize)
      (front.size + record.size) original.device.bytes.size) original)
      (update front.size payload) (fun _ => True) := by
    refine (keeps_readValidLength_of_record held small fun position _ bound =>
      inHeader position bound).bind fun length sameLength => ?_
    subst sameLength
    simp only [if_pos same]
    refine (keeps_onDevice (FaithfulDevice.keeps_writeAt ?_)).bind fun _ _ => keeps_count _
    intro position ⟨_, apart⟩
    omega
  have found : Keeps (Retains (δ := δ) record.key (Around (front.size + headerSize)
      (front.size + record.size) original.device.bytes.size) original)
      (offset? record.key) (· = some front.size) := by
    intro store retains
    exact ⟨retains, (retains.entries _ _ (inHeader front.size (by omega))).mpr led⟩
  refine (keeps_view _).bind fun limit _ => ?_
  by_cases large : limit < payload.size
  · simp only [if_pos large]
    exact keeps_throw_bind _ _
  · simp only [if_neg large]
    refine keeps_requireOpen.bind fun _ _ => found.bind fun offset placed => ?_
    subst placed
    exact updated.bind fun _ _ => keeps_syncIfConfigured

end Record

theorem length_of_readValidLength {store ready : Store δ}
    (sound : FaithfulDevice.Sound store.device) {front back : ByteArray} {record : Record}
    (held : FaithfulDevice.contents store.device = front ++ record.encode ++ back)
    (small : record.payload.size ≤ maxPayloadSize) {length : Nat}
    (read : readValidLength front.size store = .ok length ready) :
    length = record.payload.size := by
  have inRecord (position : Nat) (_ : front.size ≤ position)
      (bound : position < front.size + headerSize) :
      position < (FaithfulDevice.contents store.device).size := by
    rw [held, ByteArray.size_append, ByteArray.size_append, Record.size_encode, Record.size_eq]
    omega
  have retains : Retains record.key (· < (FaithfulDevice.contents store.device).size)
      store.inMemory store := .of_inMemory sound (fun _ inside => inside) record.key
  exact ((keeps_readValidLength_of_record held small inRecord).ok retains read).2

/-- The rest of a put writes only where the record stands. -/
theorem keeps_finishPut {written : EntityId} {original : Store Memory} {payload : ByteArray}
    (offset size moved : Nat) :
    Keeps (Retains (δ := δ) written
        (Around offset (offset + (headerSize + payload.size)) size) original)
      (finishPut offset payload moved) (fun _ => True) := by
  refine (keeps_count _).bind fun _ _ => (keeps_onDevice
    (FaithfulDevice.keeps_writeAt ?_)).bind fun _ _ => (keeps_onDevice
      (FaithfulDevice.keeps_writeAt ?_)).bind fun _ _ => (keeps_count _).bind fun _ _ =>
        keeps_syncIfConfigured
  · intro position ⟨_, apart⟩
    have header : headerSize = keySize + lengthSize := rfl
    have field : (bigEndian32 (UInt32.ofNat payload.size)).size = lengthSize := rfl
    omega
  · intro position ⟨_, apart⟩
    omega

/-- What stands on both sides of a stretch is retained from any store that differs only
within the stretch. -/
theorem Retains.of_middle {store : Store δ} {written : EntityId} {index : Index}
    {config other : Config} {stats otherStats : Stats} {front old new back : ByteArray}
    (sound : FaithfulDevice.Sound store.device) (size : old.size = new.size)
    (same : store.inMemory = ⟨⟨front ++ old ++ back⟩, index, config, stats, true⟩) :
    Retains written
      (Around front.size (front.size + new.size) (front ++ new ++ back).size)
      ⟨⟨front ++ new ++ back⟩, index, other, otherStats, true⟩ store := by
  have held : FaithfulDevice.contents store.device = front ++ old ++ back :=
    congrArg (fun store => store.device.bytes) same
  have sameIndex : store.index = index := congrArg Store.index same
  refine ⟨⟨sound, ?_⟩, congrArg Store.isOpen same, ?_, ?_⟩
  · intro position ⟨inside, apart⟩
    rw [held]
    simp only [ByteArray.size_append, byteAt_append, size] at inside ⊢
    refine ⟨inside, ?_⟩
    rcases apart with before | after
    · have inFront : position < front.size + new.size := by omega
      rw [if_pos inFront, if_pos before, if_pos inFront, if_pos before]
    · rw [if_neg (by omega), if_neg (by omega)]
  · intro key offset _
    rw [sameIndex]
  · intro key _ absent
    rw [sameIndex]
    exact absent

/-! ## Writes as their parts -/

section Parts

omit [FaithfulDevice δ]
variable {index : Index} {config : Config} {stats : Stats} {key : EntityId} {offset : Nat}
  (led : index[key]? = some offset) (device : δ)
include led

section Resize

variable {payload : ByteArray} (short : payload.size ≤ config.payloadLimit) {length : Nat}
  {ready : Store δ}
  (read : readValidLength offset ⟨device, index, config, stats, true⟩ = .ok length ready)
  (different : length ≠ payload.size)
include short read different

theorem put_eq_resize :
    put key payload ⟨device, index, config, stats, true⟩ =
      (resizeRecord offset payload >>= fun _ =>
        onDevice (ByteDevice.writeAt (offset + headerSize) payload) >>= fun _ =>
        count (Stats.countShiftedUpdate (headerSize + payload.size)) >>= fun _ =>
        syncIfConfigured) ⟨device, index, config, stats, true⟩ := by
  rw [put_eq_update short device led, update, resizeRecord, moveTail]
  simp only [bind_assoc]
  rw [bind_of_ok read, bind_of_ok read]
  simp only [if_neg different, bind_assoc]

theorem put_eq_finishPut {moved : Nat} {shifted : Store δ}
    (ran : moveTail offset (fun length => (payload.size : Int) - length)
      ⟨device, index, config, stats, true⟩ = .ok moved shifted) :
    put key payload ⟨device, index, config, stats, true⟩ =
      finishPut offset payload moved shifted := by
  rw [put_eq_resize led device short read different, resizeRecord]
  simp only [bind_assoc]
  rw [bind_of_ok ran, finishPut]

end Resize

theorem remove_eq_moveTail :
    remove key ⟨device, index, config, stats, true⟩ =
      (moveTail offset (fun length => -((headerSize + length : Nat) : Int)) >>= fun moved =>
        syncIfConfigured >>= fun _ => count (Stats.countShift moved) >>= fun _ =>
        count Stats.countRemove >>= fun _ => pure true)
          ⟨device, index.erase key, config, stats, true⟩ := by
  rw [remove, bind_of_ok (requireOpen_run _), bind_of_ok (offset?_run key _), led]
  simp only []
  rw [bind_of_ok (reindex_run _ _), moveTail]
  simp only [bind_assoc, Nat.add_assoc]

end Parts

end Store

end PackedRecords
