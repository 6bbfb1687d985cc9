import Mathlib
import PackedRecords.EntityId.Text
import PackedRecords.Proofs.Bytes
import PackedRecords.Proofs.Text.Words

/-! # The written form of identifiers

Bytes are read back from their digits, and an identifier from its groups of digits, which
make up one word.
-/

namespace PackedRecords

/-! ## Digits of bytes -/

namespace Hex

/-- The halves of a byte are digits, and make up the byte. -/
theorem digitValue?_halves (byte : UInt8) :
    digitValue? (digit (byte >>> 4)) = some (byte >>> 4) ∧
      digitValue? (digit (byte &&& 15)) = some (byte &&& 15) ∧
      byte >>> 4 <<< 4 ||| (byte &&& 15) = byte := by
  revert byte
  decide +kernel

theorem toList?_ofByte (byte : UInt8) (rest : List Char) :
    toList? (ofByte byte ++ rest) = (toList? rest).map (byte :: ·) := by
  rcases digitValue?_halves byte with ⟨high, low, whole⟩
  simp only [ofByte, List.cons_append, List.nil_append, toList?, high, low,
    Option.bind_eq_bind, Option.bind_some, whole]
  cases toList? rest <;> rfl

/-- Bytes are read back from their digits. -/
@[simp] theorem toList?_ofList (bytes : List UInt8) : toList? (ofList bytes) = some bytes := by
  induction bytes with
  | nil => rfl
  | cons byte rest induction =>
      change toList? (ofByte byte ++ ofList rest) = _
      rw [toList?_ofByte, induction]
      rfl

@[simp] theorem length_ofList (bytes : List UInt8) : (ofList bytes).length = 2 * bytes.length := by
  induction bytes with
  | nil => rfl
  | cons byte rest induction =>
      change (ofByte byte ++ ofList rest).length = _
      rw [List.length_append, induction, List.length_cons]
      simp only [ofByte, List.length_cons, List.length_nil]
      omega

theorem toList_ofBytes (bytes : ByteArray) :
    (ofBytes bytes).toList = ofList bytes.data.toList := by
  have grown : ∀ (rest : List UInt8) (text : String),
      (rest.foldl (fun text byte => (ofByte byte).foldl String.push text) text).toList =
        text.toList ++ ofList rest := by
    intro rest
    induction rest with
    | nil => simp [ofList]
    | cons byte rest induction =>
        intro text
        rw [List.foldl_cons, induction, toList_foldl_push, List.append_assoc]
        rfl
  rw [ofBytes, foldl_eq_foldl_toList, grown]
  rfl

end Hex

/-! ## Groups of digits -/

namespace EntityId

theorem joinGroups_cons {rest : List Nat} (more : rest ≠ []) (length : Nat)
    (digits : List Char) :
    joinGroups (length :: rest) digits =
      digits.take length ++ '-' :: joinGroups rest (digits.drop length) := by
  rw [joinGroups]
  exact more

/-- A group that a hyphen follows is taken off. -/
theorem splitGroups?_append {length : Nat} {rest : List Nat} (more : rest ≠ [])
    {group : List Char} (whole : group.length = length) (text : List Char) :
    splitGroups? (length :: rest) (group ++ '-' :: text) =
      (splitGroups? rest text).map (group ++ ·) := by
  have past : (group ++ '-' :: text).drop (length + 1) = text := by
    rw [← List.drop_drop, List.drop_left' whole]
    rfl
  rw [splitGroups?, List.drop_left' whole, List.take_left' whole, past]
  · cases splitGroups? rest text <;> rfl
  · exact more

section Groups

variable {lengths : List Nat} {digits : List Char} (all : digits.length = lengths.sum)
include all

/-- Digits are taken out of the groups that they have been put into. -/
theorem splitGroups?_joinGroups (groups : lengths ≠ []) :
    splitGroups? lengths (joinGroups lengths digits) = some digits := by
  induction lengths generalizing digits with
  | nil => exact absurd rfl groups
  | cons length rest induction =>
      rw [List.sum_cons] at all
      cases rest with
      | nil =>
          have single : digits.length = length := all
          rw [joinGroups, List.take_of_length_le single.le, splitGroups?, if_pos single]
      | cons next rest =>
          have group : (digits.take length).length = length := by
            rw [List.length_take]
            omega
          have others : (digits.drop length).length = (next :: rest).sum := by
            rw [List.length_drop]
            omega
          have more : next :: rest ≠ [] := List.cons_ne_nil next rest
          rw [joinGroups_cons more, splitGroups?_append more group, induction others more,
            Option.map_some, List.take_append_drop]

theorem length_joinGroups :
    (joinGroups lengths digits).length = lengths.sum + (lengths.length - 1) := by
  induction lengths generalizing digits with
  | nil => rfl
  | cons length rest induction =>
      rw [List.sum_cons] at all
      cases rest with
      | nil => simp [joinGroups, all]
      | cons next rest =>
          have others : (digits.drop length).length = (next :: rest).sum := by
            rw [List.length_drop]
            omega
          rw [joinGroups_cons (List.cons_ne_nil next rest), List.length_append,
            List.length_cons, induction others, List.length_take]
          simp only [List.length_cons, List.sum_cons] at all ⊢
          omega

end Groups

theorem length_digits (id : EntityId) :
    (Hex.ofList id.bytes.toList).length = groupLengths.sum := by
  simp [groupLengths]

theorem length_toText (id : EntityId) : id.toText.toList.length = 36 := by
  rw [toText, String.toList_ofList, length_joinGroups (length_digits id)]
  rfl

/-- An identifier is read back from its written form. -/
@[simp] theorem ofText?_toText (id : EntityId) : ofText? id.toText = some id := by
  have digits : splitGroups? groupLengths id.toText.toList =
      some (Hex.ofList id.bytes.toList) := by
    rw [toText, String.toList_ofList]
    exact splitGroups?_joinGroups (length_digits id) (List.cons_ne_nil _ _)
  have whole : ofByteArray? ⟨id.bytes.toList.toArray⟩ = some id := by
    rw [Vector.toList, Array.toArray_toList]
    exact ofByteArray?_toByteArray id
  rw [ofText?]
  simp only [length_toText]
  rw [ofGroups?, digits, Option.bind_eq_bind, Option.bind_some, ofDigits?, Hex.toList?_ofList,
    Option.bind_eq_bind, Option.bind_some, whole]

theorem mem_joinGroups {lengths : List Nat} {digits : List Char} {character : Char}
    (member : character ∈ joinGroups lengths digits) : character = '-' ∨ character ∈ digits := by
  induction lengths generalizing digits with
  | nil => cases member
  | cons length rest induction =>
      cases rest with
      | nil => exact .inr (List.mem_of_mem_take member)
      | cons next rest =>
          rw [joinGroups_cons (List.cons_ne_nil next rest)] at member
          rcases List.mem_append.mp member with first | later
          · exact .inr (List.mem_of_mem_take first)
          · rcases List.mem_cons.mp later with hyphen | later
            · exact .inl hyphen
            · exact (induction later).imp_right List.mem_of_mem_drop

theorem isWord_toText (id : EntityId) : IsWord id.toText := by
  have visible : ∀ byte : UInt8, (Hex.ofByte byte).all isVisible := by decide +kernel
  constructor
  · intro empty
    have characters := length_toText id
    rw [empty] at characters
    exact absurd characters (by decide)
  · rw [toText, String.toList_ofList, List.all_eq_true]
    intro character member
    rcases mem_joinGroups member with rfl | digit
    · rfl
    · rcases List.mem_flatMap.mp digit with ⟨byte, _, written⟩
      exact List.all_eq_true.mp (visible byte) character written

end EntityId

end PackedRecords
