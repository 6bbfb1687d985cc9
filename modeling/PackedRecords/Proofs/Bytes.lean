import Mathlib
import PackedRecords.Bytes

/-! # Bytes at positions

Byte strings of one size are equal when they agree at every position. Each
operation on byte strings is described by what stands at a position afterwards,
and then by what it does to strings that are put together from parts.
-/

namespace PackedRecords

/-! ## Going through bytes -/

theorem foldlM_loop_eq_foldl {α : Type} (step : α → UInt8 → α) (bytes : ByteArray)
    {count position : Nat} (whole : count + position = bytes.size) (value : α) :
    (ByteArray.foldlM.loop (m := Id) (fun value byte => pure (step value byte)) bytes
        bytes.size (Nat.le_refl _) count position value).run =
      (bytes.data.toList.drop position).foldl step value := by
  induction count generalizing position value with
  | zero =>
      have finished : bytes.data.toList.length ≤ position := Nat.le_of_eq (by
        rw [Nat.zero_add] at whole
        exact whole.symm)
      rw [List.drop_eq_nil_of_le finished, ByteArray.foldlM.loop.eq_def]
      split <;> rfl
  | succ count induction =>
      have inside : position < bytes.size := by omega
      have listed : position < bytes.data.toList.length := inside
      have later : count + (position + 1) = bytes.size := by omega
      rw [ByteArray.foldlM.loop.eq_def, List.drop_eq_getElem_cons listed, List.foldl_cons,
        dif_pos inside]
      exact induction later (step value bytes[position])

theorem foldl_eq_foldl_toList {α : Type} (step : α → UInt8 → α) (initial : α)
    (bytes : ByteArray) :
    bytes.foldl step initial = bytes.data.toList.foldl step initial := by
  have whole : bytes.size + 0 = bytes.size := rfl
  have fold := foldlM_loop_eq_foldl step bytes whole initial
  rw [List.drop_zero] at fold
  rw [← fold, ByteArray.foldl, ByteArray.foldlM, dif_pos (Nat.le_refl _)]
  rfl

/-! ## What stands at a position -/

theorem byteAt_of_lt {bytes : ByteArray} {position : Nat} (inside : position < bytes.size) :
    byteAt bytes position = bytes[position] := by
  rw [byteAt, dif_pos inside]

theorem byteAt_of_size_le {bytes : ByteArray} {position : Nat}
    (outside : bytes.size ≤ position) : byteAt bytes position = 0 := by
  rw [byteAt, dif_neg (by omega)]

theorem ext_byteAt {left right : ByteArray} (size : left.size = right.size)
    (same : ∀ position, position < left.size →
      byteAt left position = byteAt right position) :
    left = right := by
  apply ByteArray.ext_getElem size
  intro position inLeft inRight
  rw [← byteAt_of_lt inLeft, ← byteAt_of_lt inRight]
  exact same position inLeft

/-- The test for equal bytes compares the arrays behind them. -/
instance instLawfulBEqBytes : LawfulBEq ByteArray where
  rfl {bytes} := beq_self_eq_true bytes.data
  eq_of_beq same := ByteArray.ext (eq_of_beq same)

theorem byteAt_append (front back : ByteArray) (position : Nat) :
    byteAt (front ++ back) position =
      if position < front.size then byteAt front position
      else byteAt back (position - front.size) := by
  by_cases inFront : position < front.size
  · rw [if_pos inFront, byteAt_of_lt inFront,
      byteAt_of_lt (by rw [ByteArray.size_append]; omega),
      ByteArray.getElem_append_left inFront]
  · rw [if_neg inFront]
    by_cases inside : position < (front ++ back).size
    · have inBack : position - front.size < back.size := by
        rw [ByteArray.size_append] at inside
        omega
      rw [byteAt_of_lt inside, byteAt_of_lt inBack,
        ByteArray.getElem_append_right (by omega)]
    · have pastBack : back.size ≤ position - front.size := by
        rw [ByteArray.size_append] at inside
        omega
      rw [byteAt_of_size_le (by omega), byteAt_of_size_le pastBack]

theorem byteAt_extract (bytes : ByteArray) (start stop position : Nat) :
    byteAt (bytes.extract start stop) position =
      if start + position < stop then byteAt bytes (start + position) else 0 := by
  by_cases inside : position < (bytes.extract start stop).size
  · have bounds := inside
    rw [ByteArray.size_extract] at bounds
    rw [if_pos (by omega), byteAt_of_lt inside, byteAt_of_lt (by omega),
      ByteArray.getElem_extract]
  · rw [byteAt_of_size_le (by omega)]
    rw [ByteArray.size_extract] at inside
    split
    · rw [byteAt_of_size_le (by omega)]
    · rfl

@[simp] theorem byteAt_zeroBytes (count position : Nat) :
    byteAt (zeroBytes count) position = 0 := by
  rw [zeroBytes, repeatedByte_eq_replicate, byteAt]
  split
  · rw [ByteArray.getElem_eq_getElem_data]
    simp
  · rfl

/-! ## Parts of a string -/

theorem extract_append_extract (bytes : ByteArray) {start middle stop : Nat}
    (first : start ≤ middle) (second : middle ≤ stop) :
    bytes.extract start middle ++ bytes.extract middle stop = bytes.extract start stop := by
  rw [ByteArray.extract_append_extract, Nat.min_eq_left first, Nat.max_eq_right second]

/-- A string is what stands before a position and what stands from there on. -/
theorem extract_append_extract_size (bytes : ByteArray) {position : Nat}
    (inside : position ≤ bytes.size) :
    bytes.extract 0 position ++ bytes.extract position bytes.size = bytes := by
  rw [extract_append_extract bytes (Nat.zero_le _) inside, ByteArray.extract_zero_size]

theorem extract_middle (front middle back : ByteArray) :
    (front ++ middle ++ back).extract front.size (front.size + middle.size) = middle := by
  apply ext_byteAt
  · simp only [ByteArray.size_extract, ByteArray.size_append]
    omega
  · intro position inside
    simp only [ByteArray.size_extract, ByteArray.size_append] at inside
    simp only [byteAt_extract, byteAt_append, ByteArray.size_append]
    rw [if_pos (by omega), if_pos (by omega), if_neg (by omega), Nat.add_sub_cancel_left]

theorem extract_last (front back : ByteArray) :
    (front ++ back).extract front.size (front.size + back.size) = back := by
  have middle := extract_middle front back ByteArray.empty
  rwa [ByteArray.append_empty] at middle

/-! ## Overwriting -/

theorem overwrite_eq_append (old : ByteArray) (offset : Nat) (new : ByteArray) :
    overwrite old offset new =
      old.extract 0 offset ++ new ++ old.extract (offset + new.size) old.size := by
  rw [overwrite, ByteArray.copySlice_eq_append, Nat.zero_add, ByteArray.extract_zero_size]
  congr 2
  rw [ByteArray.size_data, Nat.sub_zero, Nat.min_self]

theorem size_overwrite {old : ByteArray} {offset : Nat} (new : ByteArray)
    (inside : offset ≤ old.size) :
    (overwrite old offset new).size = max old.size (offset + new.size) := by
  simp only [overwrite_eq_append, ByteArray.size_append, ByteArray.size_extract]
  omega

theorem byteAt_overwrite {old : ByteArray} {offset : Nat} (new : ByteArray)
    (inside : offset ≤ old.size) (position : Nat) :
    byteAt (overwrite old offset new) position =
      if offset ≤ position ∧ position < offset + new.size
      then byteAt new (position - offset) else byteAt old position := by
  simp only [overwrite_eq_append, byteAt_append, byteAt_extract, ByteArray.size_append,
    ByteArray.size_extract, Nat.zero_add, Nat.sub_zero, Nat.min_eq_left inside]
  by_cases before : position < offset
  · rw [if_pos (by omega), if_pos before, if_pos before, if_neg (by omega)]
  · by_cases within : position < offset + new.size
    · rw [if_pos within, if_neg before, if_pos (by omega)]
    · have place : offset + new.size + (position - (offset + new.size)) = position := by
        omega
      have outside : ¬(offset ≤ position ∧ position < offset + new.size) := by omega
      rw [if_neg within, if_neg outside, place]
      split
      · rfl
      · exact (byteAt_of_size_le (by omega)).symm

theorem overwrite_empty {bytes : ByteArray} {offset : Nat} (inside : offset ≤ bytes.size) :
    overwrite bytes offset ByteArray.empty = bytes := by
  rw [overwrite_eq_append, ByteArray.append_empty, ByteArray.size_empty, Nat.add_zero,
    extract_append_extract_size bytes inside]

/-- A part of the string is replaced by one of the same size. -/
theorem overwrite_middle (front back : ByteArray) {old new : ByteArray}
    (size : old.size = new.size) :
    overwrite (front ++ old ++ back) front.size new = front ++ new ++ back := by
  have inside : front.size ≤ (front ++ old ++ back).size := by
    simp only [ByteArray.size_append]
    omega
  apply ext_byteAt
  · simp only [size_overwrite new inside, ByteArray.size_append]
    omega
  · intro position _
    simp only [byteAt_overwrite new inside, byteAt_append, ByteArray.size_append]
    by_cases before : position < front.size
    · rw [if_neg (by omega), if_pos (by omega), if_pos before, if_pos (by omega),
        if_pos before]
    · by_cases within : position < front.size + new.size
      · rw [if_pos (by omega), if_pos within, if_neg before]
      · rw [if_neg (by omega), if_neg (by omega), if_neg within, size]

theorem overwrite_at_end (bytes new : ByteArray) :
    overwrite bytes bytes.size new = bytes ++ new := by
  rw [overwrite_eq_append, ByteArray.extract_zero_size,
    ByteArray.extract_eq_empty_iff.mpr (by omega), ByteArray.append_empty]

/-- What stands before the written bytes stays. -/
theorem extract_overwrite_of_le {old : ByteArray} {offset : Nat} (new : ByteArray)
    (inside : offset ≤ old.size) (start : Nat) {stop : Nat} (before : stop ≤ offset) :
    (overwrite old offset new).extract start stop = old.extract start stop := by
  apply ext_byteAt
  · simp only [ByteArray.size_extract, size_overwrite new inside]
    omega
  · intro position _
    simp only [byteAt_extract, byteAt_overwrite new inside]
    split
    · rw [if_neg (by omega)]
    · rfl

/-- What stands past the written bytes stays. -/
theorem extract_overwrite_of_ge {old : ByteArray} {offset : Nat} (new : ByteArray)
    (inside : offset ≤ old.size) {start stop : Nat} (after : offset + new.size ≤ start)
    (bounded : stop ≤ old.size) :
    (overwrite old offset new).extract start stop = old.extract start stop := by
  apply ext_byteAt
  · simp only [ByteArray.size_extract, size_overwrite new inside]
    omega
  · intro position _
    simp only [byteAt_extract, byteAt_overwrite new inside]
    split
    · rw [if_neg (by omega)]
    · rfl

/-- Two neighbouring writes, the upper one first. -/
theorem overwrite_overwrite_before {bytes : ByteArray} {offset : Nat}
    (lower upper : ByteArray) (inside : offset + lower.size ≤ bytes.size) :
    overwrite (overwrite bytes (offset + lower.size) upper) offset lower =
      overwrite bytes offset (lower ++ upper) := by
  have insideUpper : offset ≤ (overwrite bytes (offset + lower.size) upper).size := by
    rw [size_overwrite upper inside]
    omega
  apply ext_byteAt
  · rw [size_overwrite lower insideUpper, size_overwrite upper inside,
      size_overwrite _ (by omega), ByteArray.size_append]
    omega
  · intro position _
    rw [byteAt_overwrite lower insideUpper, byteAt_overwrite upper inside,
      byteAt_overwrite _ (by omega), byteAt_append, ByteArray.size_append]
    by_cases inLower : offset ≤ position ∧ position < offset + lower.size
    · rw [if_pos inLower, if_pos (by omega), if_pos (by omega)]
    · rw [if_neg inLower]
      by_cases inUpper :
          offset + lower.size ≤ position ∧ position < offset + lower.size + upper.size
      · rw [if_pos inUpper, if_pos (by omega), if_neg (by omega)]
        congr 1
        omega
      · rw [if_neg inUpper, if_neg (by omega)]

/-- Two neighbouring writes, the lower one first. -/
theorem overwrite_overwrite_after {bytes : ByteArray} {offset : Nat}
    (lower upper : ByteArray) (inside : offset ≤ bytes.size) :
    overwrite (overwrite bytes offset lower) (offset + lower.size) upper =
      overwrite bytes offset (lower ++ upper) := by
  have insideLower : offset + lower.size ≤ (overwrite bytes offset lower).size := by
    rw [size_overwrite lower inside]
    omega
  apply ext_byteAt
  · rw [size_overwrite upper insideLower, size_overwrite lower inside,
      size_overwrite _ inside, ByteArray.size_append]
    omega
  · intro position _
    rw [byteAt_overwrite upper insideLower, byteAt_overwrite lower inside,
      byteAt_overwrite _ inside, byteAt_append, ByteArray.size_append]
    by_cases inLower : offset ≤ position ∧ position < offset + lower.size
    · rw [if_neg (by omega), if_pos inLower, if_pos (by omega), if_pos (by omega)]
    · by_cases inUpper :
          offset + lower.size ≤ position ∧ position < offset + lower.size + upper.size
      · rw [if_pos inUpper, if_pos (by omega), if_neg (by omega)]
        congr 1
        omega
      · rw [if_neg inUpper, if_neg inLower, if_neg (by omega)]

/-! ## Resizing -/

@[simp] theorem size_resize (bytes : ByteArray) (size : Nat) :
    (resize bytes size).size = size := by
  rw [resize]
  split
  · rw [ByteArray.size_extract]
    omega
  · rw [ByteArray.size_append, size_zeroBytes]
    omega

theorem byteAt_resize (bytes : ByteArray) (size position : Nat) :
    byteAt (resize bytes size) position =
      if position < size then byteAt bytes position else 0 := by
  rw [resize]
  split
  · rw [byteAt_extract, Nat.zero_add]
  · rw [byteAt_append, byteAt_zeroBytes]
    by_cases inside : position < bytes.size
    · rw [if_pos inside, if_pos (by omega)]
    · rw [if_neg inside, byteAt_of_size_le (by omega)]
      split <;> rfl

/-- Cutting a string back to its front. -/
theorem resize_append (front back : ByteArray) :
    resize (front ++ back) front.size = front := by
  rw [resize, if_pos (by rw [ByteArray.size_append]; omega),
    ByteArray.extract_append_eq_left rfl]

/-- Laying the back of a string over it, further up, leaves a gap that holds what stood
there before, and zeros past the old end. -/
theorem overwrite_resize_append (front back : ByteArray) (distance : Nat) :
    overwrite (resize (front ++ back) (front.size + back.size + distance))
        (front.size + distance) back =
      front ++ resize back distance ++ back := by
  have inside : front.size + distance ≤
      (resize (front ++ back) (front.size + back.size + distance)).size := by
    rw [size_resize]
    omega
  apply ext_byteAt
  · simp only [size_overwrite back inside, ByteArray.size_append, size_resize]
    omega
  · intro position bound
    simp only [size_overwrite back inside, size_resize] at bound
    simp only [byteAt_overwrite back inside, byteAt_append, ByteArray.size_append,
      size_resize, byteAt_resize]
    by_cases inFront : position < front.size
    · rw [if_neg (by omega), if_pos (by omega), if_pos inFront, if_pos (by omega),
        if_pos inFront]
    · by_cases inGap : position < front.size + distance
      · rw [if_neg (by omega), if_pos (by omega), if_neg inFront, if_pos inGap,
          if_neg inFront, if_pos (by omega)]
      · rw [if_pos (by omega), if_neg inGap]

/-! ## Numbers of four bytes -/

private theorem combine_bytes (number : UInt32) :
    ((number >>> 24).toUInt8.toUInt32 <<< 24) ||| ((number >>> 16).toUInt8.toUInt32 <<< 16) |||
        ((number >>> 8).toUInt8.toUInt32 <<< 8) ||| number.toUInt8.toUInt32 = number := by
  apply UInt32.eq_of_toBitVec_eq
  apply BitVec.eq_of_getLsbD_eq
  intro bit inside
  simp only [UInt32.toBitVec_or, UInt32.toBitVec_shiftLeft, UInt32.toBitVec_shiftRight,
    UInt8.toBitVec_toUInt32, UInt32.toBitVec_toUInt8, UInt32.toBitVec_ofNat,
    BitVec.getLsbD_or, BitVec.shiftLeft_eq', BitVec.ushiftRight_eq',
    BitVec.getLsbD_shiftLeft, BitVec.getLsbD_setWidth, BitVec.getLsbD_ushiftRight]
  simp
  by_cases first : 24 ≤ bit
  · grind
  · by_cases second : 16 ≤ bit
    · grind
    · by_cases third : 8 ≤ bit <;> grind

/-- The byte at a place of a number that is put together from four bytes. -/
private theorem byte_of_combined (first second third fourth : UInt8) :
    let number := (first.toUInt32 <<< 24) ||| (second.toUInt32 <<< 16) |||
      (third.toUInt32 <<< 8) ||| fourth.toUInt32
    (number >>> 24).toUInt8 = first ∧ (number >>> 16).toUInt8 = second ∧
      (number >>> 8).toUInt8 = third ∧ number.toUInt8 = fourth := by
  refine ⟨?_, ?_, ?_, ?_⟩ <;>
    apply UInt8.eq_of_toBitVec_eq <;>
    apply BitVec.eq_of_getLsbD_eq <;>
    intro bit inside <;>
    simp only [UInt32.toBitVec_or, UInt32.toBitVec_shiftLeft, UInt32.toBitVec_shiftRight,
      UInt8.toBitVec_toUInt32, UInt32.toBitVec_toUInt8, UInt32.toBitVec_ofNat,
      BitVec.getLsbD_or, BitVec.shiftLeft_eq', BitVec.ushiftRight_eq',
      BitVec.getLsbD_shiftLeft, BitVec.getLsbD_setWidth, BitVec.getLsbD_ushiftRight] <;>
    simp
  all_goals grind

/-- A number is read back wherever it was written. -/
theorem readBigEndian32_append (front back : ByteArray) (number : UInt32) :
    readBigEndian32 (front ++ bigEndian32 number ++ back) front.size = number := by
  have place (index : Nat) (inside : index < 4) :
      byteAt (front ++ bigEndian32 number ++ back) (front.size + index) =
        byteAt (bigEndian32 number) index := by
    rw [byteAt_append, byteAt_append, ByteArray.size_append, size_bigEndian32,
      if_pos (by omega), if_neg (by omega), Nat.add_sub_cancel_left]
  rw [readBigEndian32, place 1 (by decide), place 2 (by decide), place 3 (by decide)]
  rw [← Nat.add_zero front.size, place 0 (by decide)]
  exact combine_bytes number

theorem bigEndian32_readBigEndian32 {bytes : ByteArray} {position : Nat}
    (inside : position + 4 ≤ bytes.size) :
    bigEndian32 (readBigEndian32 bytes position) = bytes.extract position (position + 4) := by
  apply ext_byteAt
  · rw [size_bigEndian32, ByteArray.size_extract]
    omega
  · intro index bound
    rw [size_bigEndian32] at bound
    rw [byteAt_extract, if_pos (by omega)]
    rcases byte_of_combined (byteAt bytes position) (byteAt bytes (position + 1))
        (byteAt bytes (position + 2)) (byteAt bytes (position + 3)) with
      ⟨first, second, third, fourth⟩
    match index, bound with
    | 0, _ => exact first
    | 1, _ => exact second
    | 2, _ => exact third
    | 3, _ => exact fourth

end PackedRecords
