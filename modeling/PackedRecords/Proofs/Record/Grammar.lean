import PackedRecords.Proofs.Record.LastRecords

/-! # The grammar of record files

A file is a sequence of whole records whose payloads a limit allows. Whether some
bytes start with such a record shows in their header, and what is wrong with them
otherwise does so too. So every byte string falls into records and a rest that does
not start with one, and it does so in only one way.
-/

namespace PackedRecords

/-! ## The first record -/

/-- The bytes start with a whole record that the limit allows. -/
structure Readable (limit : Nat) (bytes : ByteArray) : Prop where
  header : headerSize ≤ bytes.size
  length : (Header.decode bytes).length.toNat ≤ limit
  payload : headerSize + (Header.decode bytes).length.toNat ≤ bytes.size

theorem readable_iff (limit : Nat) (bytes : ByteArray) :
    Readable limit bytes ↔
      headerSize ≤ bytes.size ∧ (Header.decode bytes).length.toNat ≤ limit ∧
        headerSize + (Header.decode bytes).length.toNat ≤ bytes.size := by
  constructor
  · intro readable
    exact ⟨readable.header, readable.length, readable.payload⟩
  · intro ⟨header, length, payload⟩
    exact ⟨header, length, payload⟩

instance (limit : Nat) (bytes : ByteArray) : Decidable (Readable limit bytes) :=
  decidable_of_iff _ (readable_iff limit bytes).symm

/-- What is wrong with bytes at some position that do not start with a record. -/
def faultOf (limit position : Nat) (bytes : ByteArray) : Corruption :=
  let length := readBigEndian32 bytes keySize
  if bytes.size < headerSize then .truncatedHeader bytes.size
  else if 0x80000000 ≤ length.toNat then .negativeLength length
  else if limit < length.toNat then .lengthOverLimit length limit
  else .payloadPastEnd (position + headerSize + length.toNat) (position + bytes.size)

theorem not_readable_empty (limit : Nat) : ¬Readable limit ByteArray.empty := by
  intro readable
  have header := readable.header
  have positive := headerSize_pos
  rw [ByteArray.size_empty] at header
  omega

/-- Only the first twenty bytes make the header. -/
theorem Header.decode_extract (bytes : ByteArray) :
    decode (bytes.extract 0 headerSize) = decode bytes := by
  have first : ∀ position, position < headerSize →
      byteAt (bytes.extract 0 headerSize) position = byteAt bytes position := by
    intro position inside
    rw [byteAt_extract, Nat.zero_add, if_pos inside]
  apply eq_of_fields
  · apply EntityId.ext
    apply Vector.ext
    intro position inside
    simp only [decode, Vector.getElem_ofFn]
    exact first position (by rw [headerSize_eq]; omega)
  · simp only [decode, readBigEndian32]
    rw [first keySize (by decide), first (keySize + 1) (by decide),
      first (keySize + 2) (by decide), first (keySize + 3) (by decide)]

theorem Record.decode_encode_append (record : Record) (rest : ByteArray) :
    Header.decode (record.encode ++ rest) = record.header := by
  have first : (record.encode ++ rest).extract 0 headerSize = record.header.encode := by
    rw [encode_eq_header, ByteArray.append_assoc]
    exact ByteArray.extract_append_eq_left (Header.size_encode _).symm
  rw [← Header.decode_extract, first, Header.decode_encode]

/-- Readable bytes are a record and what follows it. -/
theorem Readable.exists_record {limit : Nat} {bytes : ByteArray} (readable : Readable limit bytes) :
    ∃ record rest, bytes = Record.encode record ++ rest ∧ record.payload.size ≤ limit := by
  have length := readable.length
  have inside := readable.payload
  let payloadSize := (Header.decode bytes).length.toNat
  let head := bytes.extract 0 headerSize
  let payload := bytes.extract headerSize (headerSize + payloadSize)
  let rest := bytes.extract (headerSize + payloadSize) bytes.size
  have headSize : head.size = headerSize := by
    rw [ByteArray.size_extract]
    omega
  have size : payload.size = payloadSize := by
    rw [ByteArray.size_extract]
    omega
  refine ⟨⟨(Header.decode bytes).key, payload⟩, rest, ?_, by rw [size]; exact length⟩
  have header : Record.header ⟨(Header.decode bytes).key, payload⟩ = Header.decode head := by
    rw [Header.decode_extract]
    apply Header.eq_of_fields
    · rfl
    · change UInt32.ofNat payload.size = _
      rw [size]
      exact UInt32.ofNat_toNat
  rw [Record.encode_eq_header, header, Header.encode_decode headSize,
    extract_append_extract bytes (Nat.zero_le _) (Nat.le_add_right ..)]
  exact (extract_append_extract_size bytes inside).symm

/-! ## All records -/

/-- Every byte string is some records and a rest that does not start with one. -/
theorem exists_records (limit : Nat) (bytes : ByteArray) :
    ∃ records rest, bytes = image records ++ rest ∧ AllWithin limit records ∧
      ¬Readable limit rest := by
  induction total : bytes.size using Nat.strongRecOn generalizing bytes with
  | ind size induction =>
      by_cases readable : Readable limit bytes
      · rcases readable.exists_record with ⟨record, tail, split, short⟩
        have shorter : tail.size < size := by
          have positive := record.size_pos
          rw [← total, split, ByteArray.size_append, Record.size_encode]
          omega
        rcases induction tail.size shorter tail rfl with ⟨records, rest, same, within, stuck⟩
        refine ⟨record :: records, rest, ?_, ?_, stuck⟩
        · rw [split, same, image_cons, ByteArray.append_assoc]
        · exact List.forall_mem_cons.mpr ⟨short, within⟩
      · exact ⟨[], bytes, ByteArray.empty_append.symm, List.forall_mem_nil _, readable⟩

section Limited

variable {limit : Nat} (small : limit ≤ maxPayloadSize)
include small

theorem readable_encode {record : Record} (short : record.payload.size ≤ limit)
    (rest : ByteArray) : Readable limit (record.encode ++ rest) := by
  have length : (Header.decode (record.encode ++ rest)).length.toNat = record.payload.size := by
    rw [Record.decode_encode_append]
    exact Record.toNat_length (Nat.le_trans short small)
  have size : (record.encode ++ rest).size =
      headerSize + record.payload.size + rest.size := by
    rw [ByteArray.size_append, Record.size_encode, Record.size_eq]
  constructor <;> omega

/-- Whatever other records are read off the front, the records in front of a rest
that does not start with one go on with them. -/
theorem eq_append_of_image_eq {records others : List Record} {rest tail : ByteArray}
    (stuck : ¬Readable limit rest) (within : AllWithin limit records)
    (othersWithin : AllWithin limit others)
    (same : image records ++ rest = image others ++ tail) :
    ∃ more, records = others ++ more := by
  induction others generalizing records with
  | nil => exact ⟨records, rfl⟩
  | cons other others induction =>
      rcases List.forall_mem_cons.mp othersWithin with ⟨otherShort, othersShort⟩
      cases records with
      | nil =>
          rw [image_nil, ByteArray.empty_append, image_cons, ByteArray.append_assoc] at same
          rw [same] at stuck
          exact absurd (readable_encode small otherShort _) stuck
      | cons record records =>
          rcases List.forall_mem_cons.mp within with ⟨short, recordsShort⟩
          rw [image_cons, image_cons, ByteArray.append_assoc, ByteArray.append_assoc] at same
          rcases Record.encode_append_inj
              (Nat.le_trans short small) (Nat.le_trans otherShort small) same with
            ⟨sameRecord, sameRest⟩
          rcases induction recordsShort othersShort sameRest with ⟨more, split⟩
          exact ⟨more, by rw [sameRecord, split, List.cons_append]⟩

/-- Nothing but these records make these bytes. -/
theorem eq_of_image_eq {records others : List Record} (within : AllWithin limit records)
    (othersWithin : AllWithin limit others) (same : image records = image others) :
    records = others := by
  have padded : image records ++ ByteArray.empty = image others ++ ByteArray.empty := by
    rw [same]
  rcases eq_append_of_image_eq small (not_readable_empty limit) within
      othersWithin padded with ⟨more, split⟩
  rcases eq_append_of_image_eq small (not_readable_empty limit)
      othersWithin within padded.symm with ⟨further, back⟩
  have nothing : more = [] := by
    rw [back, List.append_assoc] at split
    have lengths := congrArg List.length split
    simp only [List.length_append] at lengths
    apply List.eq_nil_of_length_eq_zero
    omega
  rw [split, nothing, List.append_nil]

end Limited

/-! ## Files -/

/-- The bytes are records that the limit allows, and nothing else. -/
def IsFile (limit : Nat) (bytes : ByteArray) : Prop :=
  ∃ records, AllWithin limit records ∧ image records = bytes

/-- The records are the longest sequence of records that the limit allows in front
of the bytes. -/
structure LongestRun (limit : Nat) (bytes : ByteArray) (records : List Record)
    (rest : ByteArray) : Prop where
  split : bytes = image records ++ rest
  within : AllWithin limit records
  longest : ∀ others tail, bytes = image others ++ tail → AllWithin limit others →
    (image others).size ≤ (image records).size

theorem LongestRun.of_not_readable {limit : Nat} (small : limit ≤ maxPayloadSize)
    {bytes rest : ByteArray} {records : List Record} (split : bytes = image records ++ rest)
    (within : AllWithin limit records) (stuck : ¬Readable limit rest) :
    LongestRun limit bytes records rest where
  split := split
  within := within
  longest others tail other othersWithin := by
    rcases eq_append_of_image_eq small stuck within othersWithin
        (split.symm.trans other) with ⟨more, longer⟩
    rw [longer, size_image_append]
    omega

/-- A rest that is left over after the records keeps the bytes from being a file. -/
theorem isFile_iff_of_not_readable {limit : Nat} (small : limit ≤ maxPayloadSize)
    {bytes rest : ByteArray} {records : List Record} (split : bytes = image records ++ rest)
    (within : AllWithin limit records) (stuck : ¬Readable limit rest) :
    IsFile limit bytes ↔ rest.size = 0 := by
  constructor
  · intro ⟨others, othersWithin, whole⟩
    have run := LongestRun.of_not_readable small split within stuck
    have bound := run.longest others ByteArray.empty
      (by rw [whole, ByteArray.append_empty]) othersWithin
    have total := congrArg ByteArray.size split
    rw [ByteArray.size_append] at total
    rw [whole] at bound
    omega
  · intro empty
    refine ⟨records, within, ?_⟩
    rw [split, ByteArray.size_eq_zero_iff.mp empty, ByteArray.append_empty]

theorem AllWithin.mono {limit wider : Nat} (wide : limit ≤ wider) {records : List Record}
    (within : AllWithin limit records) : AllWithin wider records := by
  intro record member
  exact Nat.le_trans (within record member) wide

end PackedRecords
