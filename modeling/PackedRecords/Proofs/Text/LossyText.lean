import Mathlib
import PackedRecords.Proofs.Bytes
import PackedRecords.Proofs.Text.Words
import PackedRecords.Text.Utf8

/-! # Lossy reading loses no text

The bytes of a text are read back as that text: only bytes that encode none are replaced.
-/

namespace PackedRecords

namespace Utf8

/-! ## First bytes -/

theorem start?_two {lead : Nat} (least : 2 ≤ lead) (most : lead < 32) :
    start? (UInt8.ofNat (lead + 192)) = some ⟨1, 0x80, 0xBF, lead⟩ := by
  revert lead
  decide

theorem start?_three {lead : Nat} (most : lead < 16) :
    start? (UInt8.ofNat (lead + 224)) =
      some ⟨2, if lead = 0 then 0xA0 else 0x80, if lead = 13 then 0x9F else 0xBF, lead⟩ := by
  revert lead
  decide

theorem start?_four {lead : Nat} (most : lead < 5) :
    start? (UInt8.ofNat (lead + 240)) =
      some ⟨3, if lead = 0 then 0x90 else 0x80, if lead = 4 then 0x8F else 0xBF, lead⟩ := by
  revert lead
  decide

theorem step_single (text : String) {code : Nat} (short : code < 128) :
    step ⟨text, none⟩ (UInt8.ofNat code) = ⟨text.push (Char.ofNat code), none⟩ := by
  have byte : UInt8.ofNat code < 0x80 ∧ (UInt8.ofNat code).toNat = code := by
    revert code
    decide
  rw [step, first, if_pos byte.1, byte.2]

theorem step_start (text : String) {byte : UInt8} {pending : Partial}
    (starts : start? byte = some pending) : step ⟨text, none⟩ byte = ⟨text, some pending⟩ := by
  have single : ∀ byte : UInt8, byte < 0x80 → start? byte = none := by decide +kernel
  have long : ¬ byte < 0x80 := by
    intro short
    rw [single byte short] at starts
    cases starts
  rw [step, first, if_neg long, starts]

/-! ## Bytes that continue a character -/

/-- A byte that continues a character carries six bits of its code. -/
theorem toNat_continuation {bits : Nat} (six : bits < 64) :
    (UInt8.ofNat (bits + 128)).toNat = bits + 128 ∧
      (UInt8.ofNat (bits + 128) &&& 0x3F).toNat = bits := by
  revert bits
  decide

theorem step_continuation (text : String) (owed : Nat) {low high : UInt8} (value : Nat)
    {bits : Nat} (six : bits < 64) (above : low.toNat ≤ bits + 128)
    (below : bits + 128 ≤ high.toNat) :
    step ⟨text, some ⟨owed, low, high, value⟩⟩ (UInt8.ofNat (bits + 128)) =
      if owed ≤ 1 then ⟨text.push (Char.ofNat (value * 64 + bits)), none⟩
      else ⟨text, some ⟨owed - 1, 0x80, 0xBF, value * 64 + bits⟩⟩ := by
  rcases toNat_continuation six with ⟨number, carried⟩
  have within : low ≤ UInt8.ofNat (bits + 128) ∧ UInt8.ofNat (bits + 128) ≤ high := by
    rw [UInt8.le_iff_toNat_le, UInt8.le_iff_toNat_le, number]
    exact ⟨above, below⟩
  rw [step, if_pos within, carried]

/-- All bytes but the second may carry any six bits. -/
theorem step_tail (text : String) (owed value : Nat) {bits : Nat} (six : bits < 64) :
    step ⟨text, some ⟨owed, 0x80, 0xBF, value⟩⟩ (UInt8.ofNat (bits + 128)) =
      if owed ≤ 1 then ⟨text.push (Char.ofNat (value * 64 + bits)), none⟩
      else ⟨text, some ⟨owed - 1, 0x80, 0xBF, value * 64 + bits⟩⟩ :=
  step_continuation text owed value six (Nat.le_add_left _ _)
    (Nat.add_le_add_right (Nat.le_of_lt_succ six) 128)

/-- The second byte may carry any six bits but for one first byte at either end, behind
which the code would be too small or too large. -/
theorem step_second (text : String) (owed value : Nat) {bits : Nat} (six : bits < 64)
    {first last : Prop} [Decidable first] [Decidable last] {low high : UInt8}
    (above : first → low.toNat ≤ bits + 128) (below : last → bits + 128 ≤ high.toNat) :
    step ⟨text, some ⟨owed, if first then low else 0x80, if last then high else 0xBF, value⟩⟩
        (UInt8.ofNat (bits + 128)) =
      if owed ≤ 1 then ⟨text.push (Char.ofNat (value * 64 + bits)), none⟩
      else ⟨text, some ⟨owed - 1, 0x80, 0xBF, value * 64 + bits⟩⟩ := by
  apply step_continuation text owed value six
  · split
    case isTrue least => exact above least
    case isFalse => exact Nat.le_add_left 128 bits
  · split
    case isTrue most => exact below most
    case isFalse => exact Nat.add_le_add_right (Nat.le_of_lt_succ six) 128

/-! ## Characters -/

section Character

variable {code : Nat} (text : String)

theorem foldl_two (least : 128 ≤ code) (most : code < 2048) :
    [UInt8.ofNat (code / 64 % 32 + 192), UInt8.ofNat (code % 64 + 128)].foldl step ⟨text, none⟩ =
      ⟨text.push (Char.ofNat code), none⟩ := by
  have lead : code / 64 % 32 * 64 + code % 64 = code := by omega
  have starts := @start?_two (code / 64 % 32) (by omega) (by omega)
  rw [List.foldl_cons, step_start text starts, List.foldl_cons,
    step_tail text 1 _ (Nat.mod_lt code (by decide)), lead]
  rfl

theorem foldl_three (least : 2048 ≤ code) (most : code < 65536)
    (valid : code < 0xD800 ∨ 0xDFFF < code) :
    [UInt8.ofNat (code / 4096 % 16 + 224), UInt8.ofNat (code / 64 % 64 + 128),
        UInt8.ofNat (code % 64 + 128)].foldl step ⟨text, none⟩ =
      ⟨text.push (Char.ofNat code), none⟩ := by
  have lead : (code / 4096 % 16 * 64 + code / 64 % 64) * 64 + code % 64 = code := by omega
  have starts := @start?_three (code / 4096 % 16) (by omega)
  have above : code / 4096 % 16 = 0 → 0xA0 ≤ code / 64 % 64 + 128 := by omega
  have below : code / 4096 % 16 = 13 → code / 64 % 64 + 128 ≤ 0x9F := by omega
  rw [List.foldl_cons, step_start text starts, List.foldl_cons,
    step_second text 2 _ (Nat.mod_lt (code / 64) (by decide)) above below, List.foldl_cons,
    if_neg (by decide), step_tail text 1 _ (Nat.mod_lt code (by decide)), lead]
  rfl

theorem foldl_four (least : 65536 ≤ code) (most : code < 0x110000) :
    [UInt8.ofNat (code / 262144 % 8 + 240), UInt8.ofNat (code / 4096 % 64 + 128),
        UInt8.ofNat (code / 64 % 64 + 128), UInt8.ofNat (code % 64 + 128)].foldl step
          ⟨text, none⟩ =
      ⟨text.push (Char.ofNat code), none⟩ := by
  have lead : ((code / 262144 % 8 * 64 + code / 4096 % 64) * 64 + code / 64 % 64) * 64 +
      code % 64 = code := by omega
  have starts := @start?_four (code / 262144 % 8) (by omega)
  have above : code / 262144 % 8 = 0 → 0x90 ≤ code / 4096 % 64 + 128 := by omega
  have below : code / 262144 % 8 = 4 → code / 4096 % 64 + 128 ≤ 0x8F := by omega
  rw [List.foldl_cons, step_start text starts, List.foldl_cons,
    step_second text 3 _ (Nat.mod_lt (code / 4096) (by decide)) above below, List.foldl_cons,
    if_neg (by decide), step_tail text 2 _ (Nat.mod_lt (code / 64) (by decide)),
    List.foldl_cons, if_neg (by decide), step_tail text 1 _ (Nat.mod_lt code (by decide)), lead]
  rfl

end Character

/-- The bytes of a character are read as that character. -/
theorem foldl_encode (text : String) (character : Char) :
    (String.utf8EncodeChar character).foldl step ⟨text, none⟩ = ⟨text.push character, none⟩ := by
  have whole : Char.ofNat character.val.toNat = character := Char.ofNat_toNat character
  have valid : character.val.toNat < 0xD800 ∨
      0xDFFF < character.val.toNat ∧ character.val.toNat < 0x110000 := character.valid
  rw [String.utf8EncodeChar]
  split_ifs with one two three
  · rw [List.foldl_cons, step_single text (by omega), whole]
    rfl
  · rw [foldl_two text (by omega) (by omega), whole]
  · rw [foldl_three text (by omega) (by omega) (valid.imp_right And.left), whole]
  · rw [foldl_four text (by omega) (by omega), whole]

theorem foldl_utf8Encode (text : String) (characters : List Char) :
    (characters.flatMap String.utf8EncodeChar).foldl step ⟨text, none⟩ =
      ⟨characters.foldl String.push text, none⟩ := by
  induction characters generalizing text with
  | nil => rfl
  | cons character rest induction =>
      rw [List.flatMap_cons, List.foldl_append, foldl_encode, induction]
      rfl

end Utf8

/-- The bytes of a text are read back as it. -/
theorem lossyText_toUTF8 (text : String) : lossyText text.toUTF8 = text := by
  have encoded : text.toUTF8 = text.toList.utf8Encode := by
    rw [← String.toByteArray_ofList, String.ofList_toList]
    rfl
  have bytes : text.toUTF8.data.toList = text.toList.flatMap String.utf8EncodeChar := by
    rw [encoded]
    exact List.toList_data_toByteArray
  have same : text.toList.foldl String.push "" = text := by
    apply String.toList_inj.mp
    rw [toList_foldl_push]
    rfl
  rw [lossyText, foldl_eq_foldl_toList, bytes]
  exact (congrArg Utf8.Reading.finish (Utf8.foldl_utf8Encode "" text.toList)).trans same

end PackedRecords
