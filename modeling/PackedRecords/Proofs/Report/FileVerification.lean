import PackedRecords.Proofs.Report.Verification

/-! # Files that pass verification

Verification of a faithful device finds what it finds in memory. It finds no fault in
bytes exactly if they are records with distinct keys, and then it has seen each of them
once.
-/

namespace PackedRecords

namespace Verification

/-! ## On faithful devices -/

section OnFaithful

variable {δ : Type} [ByteDevice δ] [FaithfulDevice δ]

theorem follows_readRecord (size offset : Nat) :
    FaithfulDevice.Follows (δ := δ) (readRecord size offset) (readRecord size offset) := by
  rw [readRecord, readRecord]
  by_cases short : size < offset + headerSize
  · simp only [if_pos short]
    exact Reflection.follows_pure _
  · simp only [if_neg short]
    exact (FaithfulDevice.follows_readInto offset headerSize).bind fun _ =>
      Reflection.follows_pure _

theorem follows_walk (size offset : Nat) (seen : Index) (found : Verification) :
    FaithfulDevice.Follows (δ := δ) (walk size offset seen found)
      (walk size offset seen found) := by
  induction remaining : size - offset using Nat.strongRecOn
    generalizing offset seen found with
  | ind remaining induction =>
      rw [walk, walk]
      by_cases reached : size ≤ offset
      · simp only [if_pos reached]
        exact Reflection.follows_pure _
      · simp only [if_neg reached]
        apply (follows_readRecord size offset).bind
        intro record
        cases record with
        | error fault => exact Reflection.follows_pure _
        | ok entry =>
            have positive := headerSize_pos
            exact induction _ (by omega) _ _ _ rfl

theorem follows_verifyRecords :
    FaithfulDevice.Follows (δ := δ) verifyRecords verifyRecords :=
  FaithfulDevice.follows_size.bind fun _ => (follows_walk _ _ _ _).bind fun _ =>
    Reflection.follows_pure _

end OnFaithful

/-! ## What passes -/

/-- Every record has been seen once, and nothing else. -/
def clean (count size : Nat) : Verification :=
  ⟨count, count, 0, size, size, #[]⟩

theorem verifyRecords_run {records : List Record} {rest : ByteArray}
    (within : AllWithin maxPayloadSize records) (stuck : ¬Readable maxPayloadSize rest) :
    ∃ balanced, Tallies (image records ++ rest).size records balanced ∧
      verifyRecords (⟨image records ++ rest⟩ : Memory) =
        .ok (balanced.ending (image records).size rest) ⟨image records ++ rest⟩ := by
  rcases walk_run within stuck with ⟨balanced, tallies, walked⟩
  refine ⟨balanced, tallies, ?_⟩
  rw [verifyRecords, bind_of_ok (Memory.size_run _), bind_of_ok walked, pure_run,
    tallies.checkCoverage_ending]

/-- Records with distinct keys pass. -/
theorem verifyRecords_image {records : List Record} (within : AllWithin maxPayloadSize records)
    (distinct : (keysOf records).Nodup) :
    verifyRecords (⟨image records⟩ : Memory) =
      .ok (clean records.length (image records).size) ⟨image records⟩ := by
  have stuck : ¬Readable maxPayloadSize .empty := by decide
  rcases verifyRecords_run within stuck with ⟨balanced, tallies, ran⟩
  rw [ByteArray.append_empty] at tallies ran
  have once := tallies.distinct.mpr distinct
  have same : balanced = clean records.length (image records).size := by
    rcases balanced with ⟨checked, valid, duplicates, covered, size, faults⟩
    rcases tallies with ⟨sameChecked, balance, _, _, sameCovered, sameSize, reported, _⟩
    simp only at once sameChecked balance sameCovered sameSize reported
    have none := Array.size_eq_zero_iff.mp (reported.trans once)
    rw [clean, sameChecked, sameCovered, sameSize, none, once, ← balance, once]
    rfl
  rw [ran, ending, if_pos ByteArray.size_empty, same]

/-- What passes are records with distinct keys. -/
theorem exists_records_of_passed {bytes : ByteArray} {found : Verification} {after : Memory}
    (verified : verifyRecords (⟨bytes⟩ : Memory) = .ok found after)
    (passed : found.passed = true) :
    ∃ records, bytes = image records ∧ AllWithin maxPayloadSize records ∧
      (keysOf records).Nodup := by
  rcases exists_records maxPayloadSize bytes with ⟨records, rest, split, within, stuck⟩
  rcases verifyRecords_run within stuck with ⟨balanced, tallies, ran⟩
  rw [← split, verified] at ran
  cases ran
  rcases tallies.faults_ending_eq_empty_iff.mp (Array.isEmpty_iff.mp passed) with
    ⟨empty, distinct⟩
  refine ⟨records, ?_, within, distinct⟩
  rw [split, ByteArray.size_eq_zero_iff.mp empty, ByteArray.append_empty]

end Verification

end PackedRecords
