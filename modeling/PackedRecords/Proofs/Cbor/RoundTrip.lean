import Mathlib
import PackedRecords.Cbor.Item

/-! # Reading encoded items back

What is written is read back from the front of whatever follows it. The arguments of
heads must fit into eight bytes for that.
-/

namespace PackedRecords.Cbor

/-! ## Numbers -/

@[simp] theorem length_toBigEndian (width value : Nat) :
    (toBigEndian width value).length = width := by
  rw [toBigEndian, List.length_map, List.length_range]

/-- The last byte is the least significant one. -/
theorem toBigEndian_succ (width value : Nat) :
    toBigEndian (width + 1) value = toBigEndian width (value / 256) ++ [UInt8.ofNat value] := by
  rw [toBigEndian, List.range_succ, List.map_append, toBigEndian]
  congr 1
  · apply List.map_congr_left
    intro position member
    have inside := List.mem_range.mp member
    have distance : 8 * (width + 1 - 1 - position) = 8 + 8 * (width - 1 - position) := by omega
    have byte : value >>> 8 = value / 256 := Nat.shiftRight_eq_div_pow value 8
    rw [distance, Nat.shiftRight_add, byte]
  · simp

theorem bigEndian_append_singleton (bytes : List UInt8) (last : UInt8) :
    bigEndian (bytes ++ [last]) = bigEndian bytes * 256 + last.toNat := by
  rw [bigEndian, List.foldl_append, List.foldl_cons, List.foldl_nil, bigEndian]

theorem bigEndian_toBigEndian {width value : Nat} (small : value < 256 ^ width) :
    bigEndian (toBigEndian width value) = value := by
  induction width generalizing value with
  | zero =>
      have zero : value = 0 := by omega
      rw [zero]
      rfl
  | succ width induction =>
      have rest : value / 256 < 256 ^ width := by
        rw [Nat.pow_succ] at small
        omega
      rw [toBigEndian_succ, bigEndian_append_singleton, induction rest, UInt8.toNat_ofNat']
      omega

theorem takeBytes?_append (bytes rest : List UInt8) :
    takeBytes? bytes.length (bytes ++ rest) = some (bytes, rest) := by
  simp [takeBytes?]

/-! ## Heads -/

theorem readArgument?_toBigEndian {low width argument : Nat}
    (widthOf : argumentWidth? low = some width) (positive : width ≠ 0)
    (small : argument < 256 ^ width) (rest : List UInt8) :
    readArgument? low (toBigEndian width argument ++ rest) = some (argument, rest) := by
  have taken := takeBytes?_append (toBigEndian width argument) rest
  rw [length_toBigEndian] at taken
  simp only [readArgument?, widthOf, taken, Option.bind_eq_bind, Option.bind_some,
    if_neg positive, bigEndian_toBigEndian small, Option.pure_def]

theorem readArgument?_low {low : Nat} (small : low < 24) (rest : List UInt8) :
    readArgument? low rest = some (low, rest) := by
  have width : argumentWidth? low = some 0 := by
    rw [argumentWidth?]
    · exact if_pos small
    all_goals omega
  simp [readArgument?, width, takeBytes?]

/-- Only heads of the last kind depend on the width of their argument. -/
theorem withArgument_of_lt {kind : Nat} (small : kind < 7) (low other argument : Nat) :
    withArgument kind low argument = withArgument kind other argument := by
  match kind with
  | 0 | 1 | 2 | 3 | 4 | 5 | 6 => rfl
  | _ + 7 => omega

theorem readHead?_lead {kind low : Nat} (kindSmall : kind < 7) (lowSmall : low < 31)
    {argument : Nat} {input rest : List UInt8}
    (read : readArgument? low input = some (argument, rest)) :
    readHead? (UInt8.ofNat (kind * 32 + low) :: input) =
      some (withArgument kind 0 argument, rest) := by
  have lead : (UInt8.ofNat (kind * 32 + low)).toNat = kind * 32 + low := by
    rw [UInt8.toNat_ofNat']
    omega
  have kindOf : (kind * 32 + low) / 32 = kind := by omega
  have lowOf : (kind * 32 + low) % 32 = low := by omega
  simp only [readHead?, lead, kindOf, lowOf, if_neg (show low ≠ 31 by omega), read,
    Option.bind_eq_bind, Option.bind_some, Option.pure_def]
  rw [withArgument_of_lt kindSmall low 0]

/-- A head is read back, however many bytes its argument takes. -/
theorem readHead?_encodeHead {kind argument : Nat} (kindSmall : kind < 7)
    (small : argument < 2 ^ 64) (rest : List UInt8) :
    readHead? (encodeHead kind argument ++ rest) =
      some (withArgument kind 0 argument, rest) := by
  have wide {low width : Nat} (lowSmall : low < 31) (widthOf : argumentWidth? low = some width)
      (positive : width ≠ 0) (fits : argument < 256 ^ width) :
      readHead? (UInt8.ofNat (kind * 32 + low) :: (toBigEndian width argument ++ rest)) =
        some (withArgument kind 0 argument, rest) :=
    readHead?_lead kindSmall lowSmall (readArgument?_toBigEndian widthOf positive fits rest)
  simp only [encodeHead]
  by_cases one : argument < 24
  · rw [if_pos one]
    exact readHead?_lead kindSmall (by omega) (readArgument?_low one rest)
  rw [if_neg one]
  by_cases two : argument < 0x100
  · rw [if_pos two]
    exact wide (by decide) rfl (by decide) two
  rw [if_neg two]
  by_cases three : argument < 0x10000
  · rw [if_pos three]
    exact wide (by decide) rfl (by decide) three
  rw [if_neg three]
  by_cases five : argument < 0x100000000
  · rw [if_pos five]
    exact wide (by decide) rfl (by decide) five
  rw [if_neg five]
  exact wide (by decide) rfl (by decide) small

theorem readUntagged?_of_not_tag {input rest : List UInt8} {head : Head}
    (read : readHead? input = some (head, rest)) (notTag : ∀ number, head ≠ .tag number) :
    readUntagged? input = some (head, rest) := by
  rw [readUntagged?]
  split
  · next number after taken =>
      rw [read] at taken
      cases taken
      exact absurd rfl (notTag number)
  · exact read

/-! ## Texts -/

theorem utf8Text?_toUTF8 (text : String) : utf8Text? text.toUTF8 = some text := by
  rw [utf8Text?, String.fromUTF8?, String.toUTF8_eq_toByteArray, dif_pos text.isValidUTF8]
  rfl

theorem readPiece?_toUTF8 (text : String) (rest : List UInt8) :
    readPiece? .text text.toUTF8.size (text.toUTF8.data.toList ++ rest) =
      some (text.toUTF8.data.toList, rest) := by
  have taken := takeBytes?_append text.toUTF8.data.toList rest
  have length : text.toUTF8.data.toList.length = text.toUTF8.size := Array.length_toList
  rw [length] at taken
  have allowed : StringKind.text.allows text.toUTF8.data.toList = true := by
    rw [StringKind.allows, Array.toArray_toList, utf8Text?_toUTF8]
    rfl
  rw [readPiece?, taken, Option.filter_some, if_pos allowed]

theorem readUntagged?_encodeText {text : String} (short : text.toUTF8.size < 2 ^ 64)
    (rest : List UInt8) :
    readUntagged? (encodeText text ++ rest) =
      some (.text (some text.toUTF8.size), text.toUTF8.data.toList ++ rest) := by
  rw [encodeText, encodeTextHead, List.append_assoc]
  exact readUntagged?_of_not_tag (readHead?_encodeHead (by omega) short _) (by simp)

theorem readText?_encodeText {text : String} (short : text.toUTF8.size < 2 ^ 64)
    (rest : List UInt8) :
    readText? (encodeText text ++ rest) = some (text, rest) := by
  simp only [readText?, readUntagged?_encodeText short, Option.bind_eq_bind, Option.bind_some,
    StringKind.length?, readString?, readPiece?_toUTF8, Option.pure_def]
  rw [Array.toArray_toList, utf8Text?_toUTF8]
  rfl

theorem readKey?_encodeText {text : String} (short : text.toUTF8.size ≤ keyLimit)
    (rest : List UInt8) :
    readKey? (encodeText text ++ rest) = some (text.toUTF8.data.toList, rest) := by
  have small : text.toUTF8.size < 2 ^ 64 :=
    Nat.lt_of_le_of_lt short (by decide)
  simp only [readKey?, readUntagged?_encodeText small, if_pos short, readPiece?_toUTF8]

theorem length_encodeText (text : String) : text.toUTF8.size < (encodeText text).length := by
  have length : text.toUTF8.data.toList.length = text.toUTF8.size := Array.length_toList
  have head : 0 < (encodeTextHead text.toUTF8.size).length := by
    simp only [encodeTextHead, encodeHead]
    repeat' split
    all_goals exact Nat.succ_pos _
  rw [encodeText, List.length_append, length]
  omega

/-- There are no more texts than bytes, and none of them is longer. -/
theorem lengths_le_of_encodeText (texts : List String) :
    texts.length ≤ (texts.flatMap encodeText).length ∧
      ∀ text ∈ texts, text.toUTF8.size ≤ (texts.flatMap encodeText).length := by
  induction texts with
  | nil => exact ⟨Nat.le_refl _, List.forall_mem_nil _⟩
  | cons text texts induction =>
      rcases induction with ⟨few, short⟩
      have first := length_encodeText text
      rw [List.flatMap_cons, List.length_append, List.length_cons]
      refine ⟨by omega, List.forall_mem_cons.mpr ⟨by omega, ?_⟩⟩
      intro other member
      have bound := short other member
      omega

/-! ## Collections of texts -/

theorem readElements?_encodeText {texts : List String}
    (short : ∀ text ∈ texts, text.toUTF8.size < 2 ^ 64) (before : List String)
    (rest : List UInt8) :
    readElements? (some texts.length) before (texts.flatMap encodeText ++ rest) =
      some (before.reverse ++ texts, rest) := by
  induction texts generalizing before with
  | nil =>
      rw [readElements?]
      simp [progress]
  | cons text texts induction =>
      rcases List.forall_mem_cons.mp short with ⟨shortText, shortTexts⟩
      have read := readText?_encodeText shortText (texts.flatMap encodeText ++ rest)
      rw [readElements?, List.flatMap_cons, List.append_assoc]
      simp only [List.length_cons, progress]
      split
      · next missing =>
          rw [read] at missing
          cases missing
      · next found =>
          rw [read] at found
          cases found
          rw [induction shortTexts, List.reverse_cons, List.append_assoc, List.singleton_append]

theorem readTexts?_encodeText {texts : List String}
    (short : ∀ text ∈ texts, text.toUTF8.size < 2 ^ 64) (few : texts.length < 2 ^ 64)
    (rest : List UInt8) :
    readTexts? (encodeArrayHead texts.length ++ texts.flatMap encodeText ++ rest) =
      some (texts, rest) := by
  have head := readUntagged?_of_not_tag
    (readHead?_encodeHead (show 4 < 7 by omega) few (texts.flatMap encodeText ++ rest))
    (by simp [withArgument])
  rw [readTexts?, encodeArrayHead, List.append_assoc, head]
  simp only [withArgument]
  rw [readElements?_encodeText short, List.reverse_nil, List.nil_append]

end PackedRecords.Cbor
