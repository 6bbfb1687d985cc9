import PackedRecords.Proofs.Store.Interrupted
import PackedRecords.Proofs.Store.Opening
import PackedRecords.Proofs.Store.Planned

/-! # Headers that are written and checked

Headers and strings of twenty bytes are two forms of one thing. A store that changes the
length of a record writes four bytes of its header; the header is then the one that would be
written as a whole. Whether a length is accepted, and what is said of it if it is not, depends
on the length and the limit alone.
-/

namespace PackedRecords

/-! ## Writing the length -/

/-- Bytes that are written where they stand anyhow change nothing. -/
theorem overwrite_extract_self (bytes : ByteArray) {start stop : Nat} (ordered : start ≤ stop)
    (inside : stop ≤ bytes.size) : overwrite bytes start (bytes.extract start stop) = bytes := by
  have size : (bytes.extract start stop).size = stop - start := by
    rw [ByteArray.size_extract]
    omega
  have place : start + (stop - start) = stop := by omega
  rw [overwrite_eq_append, size, place, extract_append_extract bytes (Nat.zero_le _) ordered,
    extract_append_extract_size bytes inside]

/-- What is written is found there. -/
theorem extract_overwrite_self {old : ByteArray} {offset : Nat} (new : ByteArray)
    (inside : offset ≤ old.size) :
    (overwrite old offset new).extract offset (offset + new.size) = new := by
  have place : (old.extract 0 offset).size = offset := by
    rw [ByteArray.size_extract]
    omega
  have middle := extract_middle (old.extract 0 offset) new
    (old.extract (offset + new.size) old.size)
  rwa [place, ← overwrite_eq_append] at middle

namespace Header

/-- The bytes where the header of a record at an offset stands. -/
def bytesAt (bytes : ByteArray) (offset : Nat) : ByteArray :=
  bytes.extract offset (offset + headerSize)

theorem size_bytesAt {bytes : ByteArray} {offset : Nat}
    (inside : offset + headerSize ≤ bytes.size) : (bytesAt bytes offset).size = headerSize := by
  rw [bytesAt, ByteArray.size_extract]
  omega

/-- The header of a record at an offset. -/
def readAt (bytes : ByteArray) (offset : Nat) : Header :=
  decode (bytesAt bytes offset)

theorem toByteArray_key_decode {buffer : ByteArray} (size : buffer.size = headerSize) :
    (decode buffer).key.toByteArray = buffer.extract 0 keySize := by
  have whole := encode_decode size
  rw [encode_eq] at whole
  have front : ((decode buffer).key.toByteArray ++ bigEndian32 (decode buffer).length).extract 0
      keySize = (decode buffer).key.toByteArray :=
    ByteArray.extract_append_eq_left (EntityId.size_toByteArray _).symm
  rw [whole] at front
  exact front.symm

/-- Writing the length alone is writing the whole header with that length. -/
theorem overwrite_length {bytes : ByteArray} {offset : Nat}
    (inside : offset + headerSize ≤ bytes.size) (length : UInt32) :
    overwrite bytes (offset + keySize) (bigEndian32 length) =
      overwrite bytes offset (encode ⟨(readAt bytes offset).key, length⟩) := by
  have short : keySize ≤ headerSize := by decide
  have key : (readAt bytes offset).key.toByteArray = bytes.extract offset (offset + keySize) := by
    rw [readAt, toByteArray_key_decode (size_bytesAt inside), bytesAt, ByteArray.extract_extract,
      Nat.add_zero, Nat.min_eq_left (by omega)]
  have keySizes : (bytes.extract offset (offset + keySize)).size = keySize := by
    rw [ByteArray.size_extract]
    omega
  have unchanged : overwrite bytes offset (bytes.extract offset (offset + keySize)) = bytes :=
    overwrite_extract_self bytes (Nat.le_add_right ..) (by omega)
  have written := overwrite_overwrite_after (bytes.extract offset (offset + keySize))
    (bigEndian32 length) (show offset ≤ bytes.size by omega)
  rw [unchanged, keySizes] at written
  rw [written, encode_eq, key]

/-- A string of the size of a header is the whole of its header. -/
theorem bytesAt_zero {buffer : ByteArray} (size : buffer.size = headerSize) :
    bytesAt buffer 0 = buffer := by
  rw [bytesAt, Nat.zero_add, ← size, ByteArray.extract_zero_size]

/-- Writing a length into a header. -/
theorem overwrite_length_eq_encode {buffer : ByteArray} (size : buffer.size = headerSize)
    (length : UInt32) :
    overwrite buffer keySize (bigEndian32 length) = encode ⟨(decode buffer).key, length⟩ := by
  let header : Header := ⟨(decode buffer).key, length⟩
  have inside : 0 + headerSize ≤ buffer.size := by omega
  have replaced := overwrite_middle ByteArray.empty ByteArray.empty
    (size.trans header.size_encode.symm)
  simp only [ByteArray.empty_append, ByteArray.append_empty, ByteArray.size_empty] at replaced
  have written := overwrite_length inside length
  rwa [readAt, bytesAt_zero size, Nat.zero_add, replaced] at written

/-- After the length of a header has been written, the header has its key and that length. -/
theorem bytesAt_overwrite_length {bytes : ByteArray} {offset : Nat}
    (inside : offset + headerSize ≤ bytes.size) (length : UInt32) :
    bytesAt (overwrite bytes (offset + keySize) (bigEndian32 length)) offset =
      encode ⟨(readAt bytes offset).key, length⟩ := by
  have found := extract_overwrite_self (encode ⟨(readAt bytes offset).key, length⟩)
    (show offset ≤ bytes.size by omega)
  rwa [size_encode, ← overwrite_length inside length] at found

/-- What is written behind a header leaves it alone. -/
theorem bytesAt_overwrite_behind {bytes : ByteArray} {offset : Nat} (payload : ByteArray)
    (inside : offset + headerSize ≤ bytes.size) :
    bytesAt (overwrite bytes (offset + headerSize) payload) offset = bytesAt bytes offset :=
  extract_overwrite_of_le payload inside offset (Nat.le_refl _)

/-- The length in a header is found in the last four of its bytes. -/
theorem length_readAt (bytes : ByteArray) (offset : Nat) :
    (readAt bytes offset).length = readBigEndian32 bytes (offset + keySize) := by
  have width : headerSize = keySize + 4 := rfl
  simp only [readAt, bytesAt, decode, readBigEndian32, byteAt_extract, Nat.add_assoc]
  simp (disch := omega) only [if_pos]

end Header

/-! ## Updates -/

theorem Memory.writeAt_ok {memory after : Memory} {offset : Nat} {data : ByteArray}
    (ran : ByteDevice.writeAt offset data memory = .ok () after) :
    offset ≤ memory.bytes.size ∧ after = ⟨overwrite memory.bytes offset data⟩ := by
  change writeAt offset data memory = _ at ran
  simp only [writeAt] at ran
  split at ran
  · cases ran
    exact ⟨‹_›, rfl⟩
  · cases ran

namespace Store

variable {store middle after : Store Memory} {offset : Nat}

/-- A length is read from a header that is there. -/
theorem readValidLength_inside {length : Nat}
    (ran : readValidLength offset store = .ok length middle) :
    middle = store ∧ offset + headerSize ≤ store.device.bytes.size ∧
      length = (Header.readAt store.device.bytes offset).length.toNat := by
  rcases readValidLength_ok trivial ran with ⟨_, same, measured⟩
  rcases exists_of_bind_ok ran with ⟨number, _, found, _⟩
  rcases exists_of_bind_ok found with ⟨bytes, _, read, _⟩
  rcases onDevice_ok read with ⟨memory, called, _⟩
  have inside := (Memory.readInto_ok called).2.1
  rw [Nat.add_assoc] at inside
  rw [Header.length_readAt]
  exact ⟨same, inside, length_of_valid measured⟩

/-- The header of a record in front of the tail stands where it stood. -/
theorem bytesAt_shiftAfter {source moved : Nat} {delta : Int}
    (inside : offset + headerSize ≤ store.device.bytes.size)
    (belowSource : offset + headerSize ≤ source)
    (belowTarget : ((offset + headerSize : Nat) : Int) ≤ source + delta)
    (ran : shiftAfter source delta store = .ok moved middle) :
    offset + headerSize ≤ middle.device.bytes.size ∧
      Header.bytesAt middle.device.bytes offset = Header.bytesAt store.device.bytes offset := by
  -- A shift leaves alone what lies in front of the tail and of the tail's new place.
  have retains : Retains default (· < offset + headerSize) store store :=
    .of_inMemory trivial (fun position below => Nat.lt_of_lt_of_le below inside) default
  have kept := ((keeps_shiftAfter belowSource belowTarget).ok retains ran).1.device.agree
  have front := kept.extract_eq inside
  have last := (kept (offset + headerSize - 1) (by have := headerSize_pos; omega)).1
  have part (bytes : ByteArray) : Header.bytesAt bytes offset =
      (bytes.extract 0 (offset + headerSize)).extract offset (offset + headerSize) := by
    rw [ByteArray.extract_extract, Nat.zero_add, Nat.zero_add, Nat.min_self, Header.bytesAt]
  rw [part, part store.device.bytes]
  exact ⟨Nat.le_of_pred_lt last, congrArg (·.extract offset (offset + headerSize)) front⟩

/-- An update that succeeds leaves the header that a record with the new payload and the old
key has. -/
theorem bytesAt_update {payload : ByteArray} (ran : update offset payload store = .ok () after) :
    Header.bytesAt after.device.bytes offset =
      Header.encode ⟨(Header.readAt store.device.bytes offset).key,
        UInt32.ofNat payload.size⟩ := by
  rcases exists_of_bind_ok ran with ⟨length, _, measured, rest⟩
  rcases readValidLength_inside measured with ⟨same, inside, rfl⟩
  rw [same] at rest
  let header := Header.readAt store.device.bytes offset
  by_cases fits : header.length.toNat = payload.size
  · rw [if_pos fits] at rest
    rcases exists_of_bind_ok rest with ⟨_, _, wrote, counted⟩
    rcases onDevice_ok wrote with ⟨memory, called, rfl⟩
    rcases Memory.writeAt_ok called with ⟨_, rfl⟩
    cases counted
    have length : UInt32.ofNat payload.size = header.length := by
      rw [← fits, UInt32.ofNat_toNat]
    change Header.bytesAt (overwrite store.device.bytes (offset + headerSize) payload) offset = _
    rw [length, Header.bytesAt_overwrite_behind payload inside]
    exact (Header.encode_decode (Header.size_bytesAt inside)).symm
  · rw [if_neg fits] at rest
    rcases exists_of_bind_ok rest with ⟨moved, shifted, ranShift, rest⟩
    rcases bytesAt_shiftAfter inside (by omega) (by omega) ranShift with ⟨there, kept⟩
    rcases exists_of_bind_ok rest with ⟨_, _, counted, rest⟩
    cases counted
    rcases exists_of_bind_ok rest with ⟨_, _, wroteLength, rest⟩
    rcases onDevice_ok wroteLength with ⟨memory, called, rfl⟩
    rcases Memory.writeAt_ok called with ⟨_, rfl⟩
    rcases exists_of_bind_ok rest with ⟨_, _, wrotePayload, counted⟩
    rcases onDevice_ok wrotePayload with ⟨memory, called, rfl⟩
    rcases Memory.writeAt_ok called with ⟨behind, rfl⟩
    cases counted
    change Header.bytesAt (overwrite (overwrite shifted.device.bytes (offset + keySize)
      (bigEndian32 (UInt32.ofNat payload.size))) (offset + headerSize) payload) offset = _
    rw [Header.bytesAt_overwrite_behind payload behind, Header.bytesAt_overwrite_length there,
      Header.readAt, kept, Header.readAt]

end Store

/-! ## Checking a length -/

/-- The length in a header, read as a signed number. -/
theorem toInt_toInt32 (length : UInt32) :
    length.toInt32.toInt =
      if 2 ^ 31 ≤ length.toNat then (length.toNat : Int) - 2 ^ 32 else (length.toNat : Int) := by
  have signed : length.toInt32.toInt = length.toBitVec.toInt := rfl
  have unsigned : length.toBitVec.toNat = length.toNat := rfl
  rw [signed, BitVec.toInt_eq_toNat_cond, unsigned]
  by_cases negative : 2 ^ 31 ≤ length.toNat
  · rw [if_pos negative, if_neg (by omega)]
    rfl
  · rw [if_neg negative, if_pos (by omega)]

namespace Header

variable {header : Header} {limit : Nat}

/-- A length is negative, over the limit or accepted, and the limit does not decide whether it
is negative. -/
theorem validate_iff :
    (header.validate limit = .ok header.length.toNat ↔
        header.length.toNat < 2 ^ 31 ∧ header.length.toNat ≤ limit) ∧
      (header.validate limit = .error (.negativeLength header.length) ↔
        2 ^ 31 ≤ header.length.toNat) ∧
      (header.validate limit = .error (.lengthOverLimit header.length limit) ↔
        header.length.toNat < 2 ^ 31 ∧ limit < header.length.toNat) := by
  rw [validate, validateLength]
  split
  · simp only [Except.error.injEq, reduceCtorEq, false_iff, true_iff]
    omega
  · split
    · simp only [Except.error.injEq, reduceCtorEq, false_iff, true_iff]
      omega
    · simp only [reduceCtorEq, false_iff, true_iff]
      omega

end Header

namespace Store

variable {δ : Type} {offset : Nat} {found : Except Corruption Nat} {store : Store δ}

theorem expectLength_eq_ok_iff {length : Nat} :
    expectLength offset found store = .ok length store ↔ found = .ok length := by
  cases found with
  | ok other => simp [expectLength, pure_run]
  | error fault => simp [expectLength, throw_run]

theorem expectLength_eq_corrupt_iff {fault : Corruption} :
    expectLength offset found store = .error (.corruptRecord offset fault) store ↔
      found = .error fault := by
  cases found with
  | ok other => simp [expectLength, pure_run]
  | error other => simp [expectLength, throw_run]

end Store

/-! ## All together -/

open Header in
/-- Headers and strings of twenty bytes are read and written without loss. Writing a length into
such a string leaves the key alone and gives the header with that length, so a device is left
with the same bytes whether the length is written or the whole header, and a store that
updates a record leaves the header that the key and the new payload have. A length that is found
at an offset is accepted if it is not negative as a signed number and not over the limit; it is
reported as negative, in these words, exactly if it is. -/
theorem header_codec {δ : Type} [ByteDevice δ] [FaithfulDevice δ] :
    (∀ header : Header, decode (encode header) = header) ∧
      (∀ buffer : ByteArray, buffer.size = headerSize → encode (decode buffer) = buffer ∧
        ∀ length : UInt32,
          (overwrite buffer keySize (bigEndian32 length)).extract 0 keySize =
              buffer.extract 0 keySize ∧
            overwrite buffer keySize (bigEndian32 length) =
              encode ⟨(decode buffer).key, length⟩) ∧
      (∀ (bytes : ByteArray) (offset : Nat), offset + headerSize ≤ bytes.size →
        ∀ length : UInt32,
          (ByteDevice.writeAt (offset + keySize) (bigEndian32 length) : DeviceM Memory Unit)
              ⟨bytes⟩ =
            ByteDevice.writeAt offset (encode ⟨(readAt bytes offset).key, length⟩) ⟨bytes⟩) ∧
      (∀ (store after : Store δ) (offset : Nat) (payload : ByteArray),
        FaithfulDevice.Sound store.device → Store.update offset payload store = .ok () after →
          bytesAt (FaithfulDevice.contents after.device) offset =
            encode ⟨(readAt (FaithfulDevice.contents store.device) offset).key,
              UInt32.ofNat payload.size⟩) ∧
      ∀ (header : Header) (offset limit : Nat) (store : Store δ),
        let length := header.length.toNat
        let checked := Store.expectLength offset (header.validate limit) store
        let negative := StoreError.corruptRecord offset (.negativeLength header.length)
        (checked = .ok length store ↔ length < 2 ^ 31 ∧ length ≤ limit) ∧
          (checked = .error negative store ↔ 2 ^ 31 ≤ length) ∧
          (checked = .error (.corruptRecord offset (.lengthOverLimit header.length limit)) store ↔
            length < 2 ^ 31 ∧ limit < length) ∧
          (2 ^ 31 ≤ length → negative.message = "corrupt record at offset " ++ toString offset ++
            ": " ++ ("size is negative (" ++ toString ((length : Int) - 2 ^ 32) ++ " < 0)")) := by
  refine ⟨decode_encode, ?_, ?_, ?_, ?_⟩
  · intro buffer size
    refine ⟨encode_decode size, fun length => ⟨?_, overwrite_length_eq_encode size length⟩⟩
    exact extract_overwrite_of_le _ (by rw [size]; decide) 0 (Nat.le_refl _)
  · intro bytes offset inside length
    have short : keySize ≤ headerSize := by decide
    rw [Memory.writeAt_run _ (by omega), Memory.writeAt_run _ (by omega),
      overwrite_length inside]
  · intro store after offset payload sound ran
    exact Store.bytesAt_update ((Store.follows_update offset payload).ok sound ran).2
  · intro header offset limit store
    dsimp only
    rw [Store.expectLength_eq_ok_iff, Store.expectLength_eq_corrupt_iff,
      Store.expectLength_eq_corrupt_iff]
    refine ⟨validate_iff.1, validate_iff.2.1, validate_iff.2.2, ?_⟩
    intro negative
    have signed := toInt_toInt32 header.length
    rw [if_pos negative] at signed
    rw [← signed]
    rfl

/-- Two records: the first is made shorter, and a length is written into the header of the
second. A length with its top bit set is read as a negative number. -/
theorem header_codec_two_records :
    let store := Store.opened {} [⟨.replicate 1, ⟨#[97, 98, 99]⟩⟩, ⟨.replicate 2, ⟨#[120]⟩⟩]
    let bytes := store.device.bytes
    let buffer := Header.encode ⟨.replicate 1, 3⟩
    let negative : Header := ⟨.replicate 1, 0xff000003⟩
    buffer.size = headerSize ∧
      overwrite buffer keySize (bigEndian32 1) = Header.encode ⟨.replicate 1, 1⟩ ∧
      23 + headerSize ≤ bytes.size ∧
      (ByteDevice.writeAt 39 (bigEndian32 7) : DeviceM Memory Unit) ⟨bytes⟩ =
        ByteDevice.writeAt 23 (Header.encode ⟨.replicate 2, 7⟩) ⟨bytes⟩ ∧
      (∃ after, Store.update 0 ⟨#[97]⟩ store = .ok () after ∧
        Header.bytesAt after.device.bytes 0 = Header.encode ⟨.replicate 1, 1⟩) ∧
      Store.expectLength 5 (negative.validate 9) store =
        .error (.corruptRecord 5 (.negativeLength 0xff000003)) store ∧
      (StoreError.corruptRecord 5 (.negativeLength 0xff000003)).message =
        "corrupt record at offset 5: size is negative (-16777213 < 0)" := by
  intro store bytes buffer negative
  rcases header_codec (δ := Memory) with ⟨_, strings, writes, updates, checks⟩
  have size : buffer.size = headerSize := Header.size_encode _
  have inside : 23 + headerSize ≤ bytes.size := by decide +kernel
  have key : (Header.decode buffer).key = .replicate 1 := by decide +kernel
  have firstKey : (Header.readAt bytes 0).key = .replicate 1 := by decide +kernel
  have secondKey : (Header.readAt bytes 23).key = .replicate 2 := by decide +kernel
  have updated : succeeds (Store.update 0 ⟨#[97]⟩ store) = true := by decide +kernel
  have topBit : 2 ^ 31 ≤ negative.length.toNat := by decide
  have written := ((strings buffer size).2 1).2
  have rewritten := writes bytes 23 inside 7
  rcases exists_of_succeeds updated with ⟨_, after, ran⟩
  have left := updates store after 0 ⟨#[97]⟩ trivial ran
  rcases checks negative 5 9 store with ⟨_, refused, _, message⟩
  rw [key] at written
  rw [secondKey] at rewritten
  refine ⟨size, written, inside, rewritten, ⟨after, ran, left.trans ?_⟩, refused.mpr topBit,
    (message topBit).trans (by decide +kernel)⟩
  change Header.encode ⟨(Header.readAt bytes 0).key, _⟩ = _
  rw [firstKey]
  rfl

end PackedRecords
