import PackedRecords.Proofs.Store.Index
import PackedRecords.Proofs.Store.Opening
import PackedRecords.Report.Verification

/-! # What verification finds

Verification passes over the same records as opening and stops where opening stops. Of
the records it passes it keeps a balance: each of them is either the first one of its
key or a duplicate that is reported. Where the records end before the file does, it
reports what opening reports, and nothing after that.
-/

namespace PackedRecords

/-! ## Faults that end the walk -/

namespace RecordFault

/-- What verification reports where opening a store reports a corrupt record. -/
def ofCorruption (offset : Nat) : Corruption → RecordFault
  | .truncatedHeader remaining => .truncatedHeader offset remaining
  | .negativeLength length => .unacceptableLength offset (.negativeLength length)
  | .lengthOverLimit length limit =>
      .unacceptableLength offset (.lengthOverLimit length limit)
  | .payloadPastEnd recordEnd size =>
      .truncatedRecord offset (recordEnd - offset) (size - offset)

/-- The place of bytes that are not a record, if the fault is about such bytes. -/
def framingOffset? : RecordFault → Option Nat
  | truncatedHeader offset _ => some offset
  | unacceptableLength offset _ => some offset
  | truncatedRecord offset _ _ => some offset
  | duplicateKey .. => none
  | uncovered .. => none

@[simp] theorem framingOffset?_ofCorruption (offset : Nat) (fault : Corruption) :
    (ofCorruption offset fault).framingOffset? = some offset := by
  cases fault <;> rfl

end RecordFault

namespace Verification

/-- The places where the walk met bytes that are not a record. -/
def framingOffsets (found : Verification) : List Nat :=
  found.faults.toList.filterMap RecordFault.framingOffset?

/-- One if the walk met bytes that are not a record, else zero. -/
def stops (found : Verification) : Nat :=
  if found.framingOffsets = [] then 0 else 1

/-! ## Reading one record -/

theorem checkHeader_decode (front : ByteArray) {bytes : ByteArray}
    (header : headerSize ≤ bytes.size) :
    checkHeader (front ++ bytes).size front.size (Header.decode bytes) =
      if Readable maxPayloadSize bytes then .ok (Header.decode bytes).length.toNat
      else .error (.ofCorruption front.size (faultOf maxPayloadSize front.size bytes)) := by
  have total : (front ++ bytes).size = front.size + bytes.size := ByteArray.size_append
  have field : readBigEndian32 bytes keySize = (Header.decode bytes).length := rfl
  have long : ¬bytes.size < headerSize := Nat.not_lt.mpr header
  rw [checkHeader, Header.validate, validateLength, faultOf, field, total]
  simp only [if_neg long]
  by_cases negative : 0x80000000 ≤ (Header.decode bytes).length.toNat
  · have unreadable : ¬Readable maxPayloadSize bytes := by
      intro readable
      have length := readable.length
      have unsigned : maxPayloadSize < 0x80000000 := by decide
      omega
    rw [if_pos negative, if_pos negative, if_neg unreadable]
    rfl
  · rw [if_neg negative, if_neg negative]
    by_cases exceeds : maxPayloadSize < (Header.decode bytes).length.toNat
    · have unreadable : ¬Readable maxPayloadSize bytes := by
        intro readable
        exact absurd readable.length (Nat.not_le_of_lt exceeds)
      rw [if_pos exceeds, if_pos exceeds, if_neg unreadable]
      rfl
    · rw [if_neg exceeds, if_neg exceeds]
      by_cases past : bytes.size < headerSize + (Header.decode bytes).length.toNat
      · have unreadable : ¬Readable maxPayloadSize bytes := by
          intro readable
          exact absurd readable.payload (Nat.not_le_of_lt past)
        have needed : front.size + headerSize + (Header.decode bytes).length.toNat -
            front.size = headerSize + (Header.decode bytes).length.toNat := by omega
        rw [if_neg unreadable, RecordFault.ofCorruption, needed]
        simp only []
        rw [if_pos (by omega)]
      · have readable : Readable maxPayloadSize bytes :=
          ⟨header, Nat.le_of_not_lt exceeds, Nat.le_of_not_lt past⟩
        rw [if_pos readable]
        simp only []
        rw [if_neg (by omega)]

theorem readRecord_run (front bytes : ByteArray) :
    readRecord (front ++ bytes).size front.size (⟨front ++ bytes⟩ : Memory) =
      .ok (if Readable maxPayloadSize bytes then
          .ok ((Header.decode bytes).key, (Header.decode bytes).length.toNat)
        else .error (.ofCorruption front.size (faultOf maxPayloadSize front.size bytes)))
        ⟨front ++ bytes⟩ := by
  have total : (front ++ bytes).size = front.size + bytes.size := ByteArray.size_append
  rw [readRecord]
  by_cases short : bytes.size < headerSize
  · have unreadable : ¬Readable maxPayloadSize bytes := by
      intro readable
      exact absurd readable.header (Nat.not_le_of_lt short)
    have remaining : (front ++ bytes).size - front.size = bytes.size := by omega
    rw [if_pos (by omega), if_neg unreadable, faultOf, if_pos short, remaining]
    rfl
  · have read : (ByteDevice.readInto front.size headerSize : DeviceM Memory ByteArray)
        ⟨front ++ bytes⟩ = .ok (bytes.extract 0 headerSize) ⟨front ++ bytes⟩ := by
      have cut : (front ++ bytes).extract (front.size + 0) (front.size + headerSize) =
          bytes.extract 0 headerSize := ByteArray.extract_append_size_add
      rw [Nat.add_zero] at cut
      rw [Memory.readInto_run (by omega), cut]
    rw [if_neg (by omega)]
    change ((ByteDevice.readInto front.size headerSize : DeviceM Memory ByteArray) >>=
      fun _ => _) _ = _
    rw [bind_of_ok read, pure_run]
    simp only [Header.decode_extract, checkHeader_decode front (Nat.le_of_not_lt short)]
    by_cases readable : Readable maxPayloadSize bytes
    · rw [if_pos readable, if_pos readable]
      rfl
    · rw [if_neg readable, if_neg readable]
      rfl

/-! ## The balance -/

/-- What the walk has counted when it has passed some whole records of a file. -/
structure Tallies (size : Nat) (passed : List Record) (found : Verification) : Prop where
  checked : found.checked = passed.length
  balance : found.valid + found.duplicates = passed.length
  valid : found.valid = (indexFrom 0 passed ∅).size
  distinct : found.duplicates = 0 ↔ (keysOf passed).Nodup
  covered : found.covered = (image passed).size
  size : found.size = size
  reported : found.faults.size = found.duplicates
  framed : found.framingOffsets = []

theorem tallies_start (size : Nat) : Tallies size [] (start size) where
  checked := rfl
  balance := rfl
  valid := rfl
  distinct := ⟨fun _ => List.nodup_nil, fun _ => rfl⟩
  covered := rfl
  size := rfl
  reported := rfl
  framed := rfl

theorem framingOffsets_report (fault : RecordFault) (found : Verification) :
    (found.report fault).framingOffsets =
      found.framingOffsets ++ fault.framingOffset?.toList := by
  rw [framingOffsets, report, Array.toList_push, List.filterMap_append]
  simp only [List.filterMap_cons, List.filterMap_nil]
  cases fault.framingOffset? <;> rfl

/-- What the walk counts for a record whose key stands in `seen` if it occurred before. -/
def pass (record : Record) (offset : Nat) (seen : Index) (found : Verification) :
    Verification :=
  (found.check.countKey record.key seen[record.key]? offset).cover (offset + record.size)

theorem indexFrom_append_singleton (start : Nat) (passed : List Record) (record : Record)
    (index : Index) :
    indexFrom start (passed ++ [record]) index =
      (indexFrom start passed index).insert record.key (start + (image passed).size) := by
  induction passed generalizing start index with
  | nil => rfl
  | cons head rest induction =>
      rw [List.cons_append, indexFrom, induction, indexFrom, size_image_cons, Nat.add_assoc]

theorem size_indexFrom_append_singleton (passed : List Record) (record : Record) :
    (indexFrom 0 (passed ++ [record]) ∅).size =
      if (lastOffset? record.key 0 passed).isSome then (indexFrom 0 passed ∅).size
      else (indexFrom 0 passed ∅).size + 1 := by
  rw [indexFrom_append_singleton, ← getElem?_indexFrom_empty, Std.ExtTreeMap.size_insert,
    Std.ExtTreeMap.contains_eq_isSome_getElem?]

theorem nodup_keysOf_append_singleton (passed : List Record) (record : Record) :
    (keysOf (passed ++ [record])).Nodup ↔
      (keysOf passed).Nodup ∧ record.key ∉ keysOf passed := by
  rw [keysOf_append, List.perm_append_comm.nodup_iff, keysOf_cons, keysOf_nil,
    List.singleton_append, List.nodup_cons, and_comm]

/-- One more record keeps the balance, whether or not its key has occurred before. -/
theorem Tallies.pass {size : Nat} {passed : List Record} {found : Verification}
    (tallies : Tallies size passed found) (record : Record) :
    Tallies size (passed ++ [record])
      (found.pass record (image passed).size (indexFrom 0 passed ∅)) := by
  have length : (passed ++ [record]).length = passed.length + 1 := by simp
  have covered : (image passed).size + record.size = (image (passed ++ [record])).size := by
    rw [size_image_append, size_image_cons, image_nil, ByteArray.size_empty, Nat.add_zero]
  have sizes := size_indexFrom_append_singleton passed record
  rcases tallies with ⟨checked, balance, valid, distinct, _, sameSize, reported, framed⟩
  rw [Verification.pass, getElem?_indexFrom_empty]
  cases known : lastOffset? record.key 0 passed with
  | none =>
      have fresh : record.key ∉ keysOf passed := lastOffset?_eq_none_iff.mp known
      rw [known] at sizes
      exact {
        checked := by rw [length, ← checked]; rfl
        balance := by rw [length, ← balance]; exact Nat.add_right_comm ..
        valid := by rw [sizes, ← valid]; rfl
        distinct := by
          rw [nodup_keysOf_append_singleton, ← distinct]
          exact ⟨fun unique => ⟨unique, fresh⟩, And.left⟩
        covered := covered
        size := sameSize
        reported := reported
        framed := framed }
  | some previous =>
      have repeated : record.key ∈ keysOf passed := by
        apply Decidable.not_not.mp
        intro fresh
        have missing : lastOffset? record.key 0 passed = none :=
          lastOffset?_eq_none_iff.mpr fresh
        rw [known] at missing
        cases missing
      rw [known] at sizes
      exact {
        checked := by rw [length, ← checked]; rfl
        balance := by rw [length, ← balance]; exact (Nat.add_assoc ..).symm
        valid := by rw [sizes]; exact valid
        distinct := by
          rw [nodup_keysOf_append_singleton]
          exact ⟨fun none => absurd none (Nat.succ_ne_zero _),
            fun ⟨_, fresh⟩ => absurd repeated fresh⟩
        covered := covered
        size := sameSize
        reported := by
          change (Array.push _ _).size = _
          rw [Array.size_push]
          exact congrArg (· + 1) reported
        framed := by
          change (Verification.report _ _).framingOffsets = []
          rw [framingOffsets_report]
          exact (List.append_nil _).trans framed }

/-! ## The walk -/

/-- The walk passes a whole record and counts it. -/
theorem walk_pass (front rest : ByteArray) {record : Record}
    (short : record.payload.size ≤ maxPayloadSize) (seen : Index) (found : Verification) :
    walk (front ++ (record.encode ++ rest)).size front.size seen found
        (⟨front ++ (record.encode ++ rest)⟩ : Memory) =
      walk (front ++ (record.encode ++ rest)).size (front ++ record.encode).size
        (seen.insert record.key front.size) (found.pass record front.size seen)
        ⟨front ++ (record.encode ++ rest)⟩ := by
  have positive := record.size_pos
  have inside : ¬(front ++ (record.encode ++ rest)).size ≤ front.size := by
    rw [ByteArray.size_append, ByteArray.size_append, Record.size_encode]
    omega
  have read : readRecord (front ++ (record.encode ++ rest)).size front.size
      (⟨front ++ (record.encode ++ rest)⟩ : Memory) =
        .ok (.ok (record.key, record.payload.size)) ⟨front ++ (record.encode ++ rest)⟩ := by
    rw [readRecord_run, if_pos (readable_encode (Nat.le_refl _) short rest),
      Record.decode_encode_append]
    simp only [Record.header, Record.toNat_length short]
  have next : front.size + headerSize + record.payload.size =
      (front ++ record.encode).size := by
    rw [ByteArray.size_append, Record.size_encode, Record.size_eq, Nat.add_assoc]
  have recordEnd : front.size + record.size = (front ++ record.encode).size := by
    rw [ByteArray.size_append, Record.size_encode]
  rw [walk, if_neg inside, bind_of_ok read]
  simp only [next]
  rw [pass, recordEnd]

/-- The walk passes all whole records and keeps the balance. -/
theorem walk_records (passed : List Record) {more : List Record}
    (within : AllWithin maxPayloadSize more) (rest : ByteArray) {size : Nat}
    (whole : (image (passed ++ more) ++ rest).size = size) {found : Verification}
    (tallies : Tallies size passed found) :
    ∃ balanced, Tallies size (passed ++ more) balanced ∧
      walk size (image passed).size (indexFrom 0 passed ∅) found
          (⟨image (passed ++ more) ++ rest⟩ : Memory) =
        walk size (image (passed ++ more)).size (indexFrom 0 (passed ++ more) ∅) balanced
          ⟨image (passed ++ more) ++ rest⟩ := by
  induction more generalizing passed found with
  | nil =>
      rw [List.append_nil] at whole ⊢
      exact ⟨found, tallies, rfl⟩
  | cons record more induction =>
      rcases List.forall_mem_cons.mp within with ⟨short, shortRest⟩
      have split : passed ++ record :: more = passed ++ [record] ++ more := by simp
      have bytes : image (passed ++ record :: more) ++ rest =
          image passed ++ (record.encode ++ (image more ++ rest)) := by
        rw [image_split, ByteArray.append_assoc, ByteArray.append_assoc]
      have next : (image passed ++ record.encode).size = (image (passed ++ [record])).size := by
        rw [image_append, image_cons, image_nil, ByteArray.append_empty]
      have step := walk_pass (image passed) (image more ++ rest) short
        (indexFrom 0 passed ∅) found
      rw [← bytes, whole, next] at step
      have seen : (indexFrom 0 passed ∅).insert record.key (image passed).size =
          indexFrom 0 (passed ++ [record]) ∅ := by
        rw [indexFrom_append_singleton, Nat.zero_add]
      rw [step, seen, split]
      rw [split] at whole
      exact induction (passed ++ [record]) shortRest whole (tallies.pass record)

/-- What the walk ends with, given what stands behind the whole records. -/
def ending (place : Nat) (rest : ByteArray) (found : Verification) : Verification :=
  if rest.size = 0 then found
  else found.check.report (.ofCorruption place (faultOf maxPayloadSize place rest))

theorem walk_rest (front : ByteArray) {rest : ByteArray}
    (stuck : ¬Readable maxPayloadSize rest) (seen : Index) (found : Verification) :
    walk (front ++ rest).size front.size seen found (⟨front ++ rest⟩ : Memory) =
      .ok (found.ending front.size rest) ⟨front ++ rest⟩ := by
  have total : (front ++ rest).size = front.size + rest.size := ByteArray.size_append
  rw [walk, ending]
  by_cases empty : rest.size = 0
  · rw [if_pos (by omega), if_pos empty, pure_run]
  · have read := readRecord_run front rest
    rw [if_neg stuck] at read
    rw [if_neg (by omega), if_neg empty, bind_of_ok read]
    rfl

/-- The records are counted in balance, and what is left over behind them is reported
once. -/
theorem walk_run {records : List Record} {rest : ByteArray}
    (within : AllWithin maxPayloadSize records) (stuck : ¬Readable maxPayloadSize rest) :
    ∃ balanced, Tallies (image records ++ rest).size records balanced ∧
      walk (image records ++ rest).size 0 ∅ (start (image records ++ rest).size)
          (⟨image records ++ rest⟩ : Memory) =
        .ok (balanced.ending (image records).size rest) ⟨image records ++ rest⟩ := by
  have start := tallies_start (image records ++ rest).size
  rcases walk_records [] within rest rfl start with ⟨balanced, tallies, walked⟩
  exact ⟨balanced, tallies,
    walked.trans (walk_rest (image records) stuck (indexFrom 0 records ∅) balanced)⟩

/-! ## The end of the walk -/

section Ending

variable {records : List Record} {rest : ByteArray} {found : Verification}
  (tallies : Tallies (image records ++ rest).size records found)
include tallies

theorem Tallies.framingOffsets_ending :
    (found.ending (image records).size rest).framingOffsets =
      if rest.size = 0 then [] else [(image records).size] := by
  rw [ending]
  by_cases empty : rest.size = 0
  · rw [if_pos empty, if_pos empty]
    exact tallies.framed
  · rw [if_neg empty, if_neg empty, framingOffsets_report,
      RecordFault.framingOffset?_ofCorruption]
    exact congrArg (· ++ [(image records).size]) tallies.framed

theorem Tallies.stops_ending :
    (found.ending (image records).size rest).stops = if rest.size = 0 then 0 else 1 := by
  rw [stops, tallies.framingOffsets_ending]
  by_cases empty : rest.size = 0
  · simp only [if_pos empty, if_true]
  · simp only [if_neg empty, List.cons_ne_nil, if_false]

theorem Tallies.size_faults_ending :
    (found.ending (image records).size rest).faults.size =
      (found.ending (image records).size rest).duplicates +
        (found.ending (image records).size rest).stops := by
  rw [tallies.stops_ending, ending]
  by_cases empty : rest.size = 0
  · rw [if_pos empty, if_pos empty]
    exact tallies.reported
  · rw [if_neg empty, if_neg empty, report, Array.size_push]
    exact congrArg (· + 1) tallies.reported

theorem Tallies.checked_ending :
    (found.ending (image records).size rest).checked =
      (found.ending (image records).size rest).valid +
        (found.ending (image records).size rest).duplicates +
        (found.ending (image records).size rest).stops := by
  have balance := tallies.checked.trans tallies.balance.symm
  rw [tallies.stops_ending, ending]
  by_cases empty : rest.size = 0
  · rw [if_pos empty, if_pos empty]
    exact balance
  · rw [if_neg empty, if_neg empty]
    exact congrArg (· + 1) balance

theorem Tallies.covered_ending :
    (found.ending (image records).size rest).covered = (image records).size := by
  rw [ending]
  by_cases empty : rest.size = 0
  · rw [if_pos empty]
    exact tallies.covered
  · rw [if_neg empty]
    exact tallies.covered

theorem Tallies.valid_ending :
    (found.ending (image records).size rest).valid = (indexFrom 0 records ∅).size := by
  rw [ending]
  by_cases empty : rest.size = 0
  · rw [if_pos empty]
    exact tallies.valid
  · rw [if_neg empty]
    exact tallies.valid

theorem Tallies.faults_ending_eq_empty_iff :
    (found.ending (image records).size rest).faults = #[] ↔
      rest.size = 0 ∧ (keysOf records).Nodup := by
  rw [← Array.size_eq_zero_iff, tallies.size_faults_ending, tallies.stops_ending,
    ← tallies.distinct, ending]
  by_cases empty : rest.size = 0
  · rw [if_pos empty, if_pos empty]
    exact ⟨fun none => ⟨empty, none⟩, And.right⟩
  · rw [if_neg empty, if_neg empty]
    exact ⟨fun nothing => absurd nothing (Nat.succ_ne_zero _),
      fun ⟨whole, _⟩ => absurd whole empty⟩

/-- Either the records cover the whole file or the walk has reported why not. -/
theorem Tallies.checkCoverage_ending :
    (found.ending (image records).size rest).checkCoverage =
      found.ending (image records).size rest := by
  rw [checkCoverage, if_neg]
  intro ⟨passed, uncovered⟩
  have empty := (tallies.faults_ending_eq_empty_iff.mp (Array.isEmpty_iff.mp passed)).1
  rw [tallies.covered_ending, ending, if_pos empty, tallies.size, ByteArray.size_append, empty]
    at uncovered
  exact uncovered rfl

end Ending

/-- A fault behind the last whole record is the last fault. -/
theorem back?_faults_ending (place : Nat) {rest : ByteArray} (leftOver : rest.size ≠ 0)
    (found : Verification) :
    (found.ending place rest).faults.back? =
      some (.ofCorruption place (faultOf maxPayloadSize place rest)) := by
  rw [ending, if_neg leftOver, report, Array.back?_push]

/-! ## Verification and opening -/

/-- The number of different keys is the size of the index. -/
theorem size_indexFrom (records : List Record) :
    (indexFrom 0 records ∅).size =
      (Std.ExtTreeSet.ofList (keysOf records) compare).size := by
  apply size_eq_of_mem
  intro key
  rw [Std.ExtTreeMap.mem_iff_isSome_getElem?, getElem?_indexFrom_empty,
    Std.ExtTreeSet.mem_ofList, List.contains_iff_mem, Option.isSome_iff_ne_none, ne_eq,
    lastOffset?_eq_none_iff, Decidable.not_not]

/-- Every byte string is verified as it is opened: what verification counts and reports
tells whether opening succeeds, how many keys it finds, and where it fails. -/
theorem verifyRecords_agrees (config : Config)
    (unrestricted : config.payloadLimit = maxPayloadSize) (bytes : ByteArray) :
    ∃ found records rest,
      verifyRecords (⟨bytes⟩ : Memory) = .ok found ⟨bytes⟩ ∧
      LongestRun maxPayloadSize bytes records rest ∧
      (found.faults = #[] ↔
        (∃ store, Store.openDevice config (⟨bytes⟩ : Memory) = .ok store) ∧
          (keysOf records).Nodup) ∧
      (∀ offset,
        (∃ fault after, Store.openDevice config (⟨bytes⟩ : Memory) =
            .error (.corruptRecord offset fault, after)) ↔
          found.framingOffsets = [offset] ∧
            found.faults.back?.bind RecordFault.framingOffset? = some offset) ∧
      found.faults.size = found.duplicates + found.stops ∧
      found.checked = found.valid + found.duplicates + found.stops ∧
      found.covered = (image records).size ∧
      found.valid = (Std.ExtTreeSet.ofList (keysOf records) compare).size ∧
      (∀ store, Store.openDevice config (⟨bytes⟩ : Memory) = .ok store →
        Store.length store = .ok found.valid store) ∧
      walk bytes.size 0 ∅ (start bytes.size) (⟨bytes⟩ : Memory) = .ok found ⟨bytes⟩ := by
  rcases exists_records maxPayloadSize bytes with ⟨records, rest, split, within, stuck⟩
  rcases walk_run within stuck with ⟨balanced, tallies, walked⟩
  have run := LongestRun.of_not_readable (Nat.le_refl _) split within stuck
  have whole (empty : rest.size = 0) : Store.openDevice config (⟨bytes⟩ : Memory) =
      .ok (Store.opened config records) := by
    rw [split, ByteArray.size_eq_zero_iff.mp empty, ByteArray.append_empty]
    rw [← unrestricted] at within
    exact Store.openDevice_image within
  have broken (leftOver : rest.size ≠ 0) : Store.openDevice config (⟨bytes⟩ : Memory) =
      .error (.corruptRecord (image records).size
        (faultOf maxPayloadSize (image records).size rest), ⟨bytes⟩) := by
    rw [split]
    rw [← unrestricted] at within stuck ⊢
    exact Store.openDevice_rest within stuck leftOver
  have verified : verifyRecords (⟨bytes⟩ : Memory) =
      .ok (balanced.ending (image records).size rest) ⟨bytes⟩ := by
    rw [← split] at walked
    rw [verifyRecords, bind_of_ok (Memory.size_run _), bind_of_ok walked, pure_run,
      tallies.checkCoverage_ending]
  rw [← split] at walked
  refine ⟨_, records, rest, verified, run, ?_, ?_, tallies.size_faults_ending,
    tallies.checked_ending, tallies.covered_ending,
    tallies.valid_ending.trans (size_indexFrom records), ?_, walked⟩
  · rw [tallies.faults_ending_eq_empty_iff]
    constructor
    · intro ⟨empty, distinct⟩
      exact ⟨⟨_, whole empty⟩, distinct⟩
    · intro ⟨⟨store, accepted⟩, distinct⟩
      refine ⟨Decidable.not_not.mp ?_, distinct⟩
      intro leftOver
      rw [broken leftOver] at accepted
      cases accepted
  · intro offset
    rw [tallies.framingOffsets_ending]
    by_cases empty : rest.size = 0
    · rw [whole empty, if_pos empty]
      constructor
      · intro ⟨fault, after, failed⟩
        cases failed
      · intro ⟨framed, _⟩
        cases framed
    · rw [broken empty, if_neg empty, back?_faults_ending _ empty, Option.bind_some,
        RecordFault.framingOffset?_ofCorruption]
      constructor
      · intro ⟨fault, after, failed⟩
        cases failed
        exact ⟨rfl, rfl⟩
      · intro ⟨framed, _⟩
        cases framed
        exact ⟨_, _, rfl⟩
  · intro store accepted
    by_cases empty : rest.size = 0
    · rw [whole empty] at accepted
      cases accepted
      rw [tallies.valid_ending]
      rfl
    · rw [broken empty] at accepted
      cases accepted

/-- A key that occurs again does not end the walk, a byte behind the records does. -/
theorem verifyRecords_agrees_repeated_key :
    ({} : Config).payloadLimit = maxPayloadSize ∧
      ∃ found, verifyRecords
          (⟨image [⟨.ofPool 1, .empty⟩, ⟨.ofPool 1, .empty⟩] ++ ⟨#[7]⟩⟩ : Memory) =
        .ok found ⟨image [⟨.ofPool 1, .empty⟩, ⟨.ofPool 1, .empty⟩] ++ ⟨#[7]⟩⟩ ∧
        found.framingOffsets = [40] := by
  let repeated : List Record := [⟨.ofPool 1, .empty⟩, ⟨.ofPool 1, .empty⟩]
  have unrestricted : ({} : Config).payloadLimit = maxPayloadSize := by decide
  have within : AllWithin ({} : Config).payloadLimit repeated := by decide
  have stuck : ¬Readable ({} : Config).payloadLimit ⟨#[7]⟩ := by decide
  rcases verifyRecords_agrees {} unrestricted (image repeated ++ ⟨#[7]⟩) with
    ⟨found, _, _, verified, _, _, framing, _⟩
  have failed := Store.openDevice_rest within stuck (by decide)
  exact ⟨unrestricted, found, verified, ((framing 40).mp ⟨_, _, failed⟩).1⟩

end Verification

end PackedRecords
