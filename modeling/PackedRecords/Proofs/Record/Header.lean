import PackedRecords.Proofs.Bytes
import PackedRecords.Record.Image

/-! # Reading headers and records back

A header is read back from its own twenty bytes, and twenty bytes are the encoding
of the header read from them. A record whose length fits into its header can be
told from whatever follows it.
-/

namespace PackedRecords

theorem headerSize_eq : headerSize = 20 := rfl

theorem keySize_eq : keySize = 16 := rfl

theorem EntityId.byteAt_toByteArray (key : EntityId) (position : Fin 16) :
    byteAt key.toByteArray position.val = key.bytes[position] := by
  rw [byteAt_of_lt (by rw [EntityId.size_toByteArray]; exact position.isLt)]
  rfl

namespace Header

theorem encode_eq (header : Header) :
    header.encode = header.key.toByteArray ++ bigEndian32 header.length :=
  rfl

theorem eq_of_fields {left right : Header} (key : left.key = right.key)
    (length : left.length = right.length) : left = right := by
  cases left
  cases right
  cases key
  cases length
  rfl

@[simp] theorem decode_encode (header : Header) : decode header.encode = header := by
  apply eq_of_fields
  · apply EntityId.ext
    apply Vector.ext
    intro position inside
    simp only [decode, encode_eq, Vector.getElem_ofFn, byteAt_append,
      EntityId.size_toByteArray, if_pos inside]
    exact header.key.byteAt_toByteArray ⟨position, inside⟩
  · have read := readBigEndian32_append header.key.toByteArray ByteArray.empty header.length
    rw [ByteArray.append_empty, EntityId.size_toByteArray] at read
    exact read

theorem encode_decode {bytes : ByteArray} (size : bytes.size = headerSize) :
    encode (decode bytes) = bytes := by
  have keyBytes : (decode bytes).key.toByteArray = bytes.extract 0 keySize := by
    apply ext_byteAt
    · rw [EntityId.size_toByteArray, ByteArray.size_extract, size]
      rfl
    · intro position inside
      rw [EntityId.size_toByteArray] at inside
      rw [byteAt_extract, Nat.zero_add, if_pos (show position < keySize from inside)]
      exact ((decode bytes).key.byteAt_toByteArray ⟨position, inside⟩).trans
        (by simp [decode])
  have lengthBytes : bigEndian32 (decode bytes).length = bytes.extract keySize bytes.size := by
    rw [size]
    exact bigEndian32_readBigEndian32 (by rw [size]; decide)
  rw [encode_eq, keyBytes, lengthBytes]
  exact extract_append_extract_size bytes (by rw [size]; decide)

end Header

namespace Record

theorem encode_eq (record : Record) :
    record.encode = record.key.toByteArray ++
      (bigEndian32 (UInt32.ofNat record.payload.size) ++ record.payload) := by
  rw [encode, Header.encode_eq, ByteArray.append_assoc]
  rfl

theorem encode_eq_header (record : Record) :
    record.encode = record.header.encode ++ record.payload :=
  rfl

theorem size_eq (record : Record) : record.size = headerSize + record.payload.size :=
  rfl

theorem size_pos (record : Record) : 0 < record.size :=
  Nat.lt_of_lt_of_le headerSize_pos (Nat.le_add_right ..)

/-- The length field of a record whose payload is not too long. -/
theorem toNat_length {payload : ByteArray} (short : payload.size ≤ maxPayloadSize) :
    (UInt32.ofNat payload.size).toNat = payload.size := by
  rw [UInt32.toNat_ofNat']
  apply Nat.mod_eq_of_lt
  have limit : maxPayloadSize < 2 ^ 32 := by decide
  omega

/-- Records with short payloads are told apart by their bytes, whatever follows. -/
theorem encode_append_inj {left right : Record} {leftRest rightRest : ByteArray}
    (leftShort : left.payload.size ≤ maxPayloadSize)
    (rightShort : right.payload.size ≤ maxPayloadSize)
    (same : left.encode ++ leftRest = right.encode ++ rightRest) :
    left = right ∧ leftRest = rightRest := by
  rw [encode_eq_header, encode_eq_header, ByteArray.append_assoc, ByteArray.append_assoc]
    at same
  have headers : left.header.encode = right.header.encode :=
    ByteArray.append_inj_left same (by simp)
  rw [headers] at same
  have bodies := (ByteArray.append_right_inj _).mp same
  have decoded : left.header = right.header := by
    rw [← Header.decode_encode left.header, headers, Header.decode_encode]
  have keys : left.key = right.key := congrArg Header.key decoded
  have lengths : left.payload.size = right.payload.size := by
    have fields := congrArg (fun header => header.length.toNat) decoded
    simpa only [Record.header, toNat_length leftShort, toNat_length rightShort] using fields
  have payloads : left.payload = right.payload := ByteArray.append_inj_left bodies lengths
  rw [payloads] at bodies
  refine ⟨?_, (ByteArray.append_right_inj _).mp bodies⟩
  cases left
  cases right
  cases keys
  cases payloads
  rfl

end Record

end PackedRecords
