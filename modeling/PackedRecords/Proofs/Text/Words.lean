import PackedRecords.Proofs.Text.Split
import PackedRecords.Text.Columns

/-! # Words and lines

A reader of a report sees its lines, and in each line the words between blanks. However
wide a column is, the blanks that fill it up leave the words alone.
-/

namespace PackedRecords

@[simp] theorem toList_pushn (text : String) (character : Char) (count : Nat) :
    (text.pushn character count).toList = text.toList ++ List.replicate count character := by
  rw [String.pushn_eq_repeat_push]
  induction count with
  | zero => simp [Nat.repeat]
  | succ count induction =>
      rw [Nat.repeat, String.toList_push, induction, List.replicate_succ', List.append_assoc]

theorem toList_foldl_push (text : String) (characters : List Char) :
    (characters.foldl String.push text).toList = text.toList ++ characters := by
  induction characters generalizing text with
  | nil => exact (List.append_nil _).symm
  | cons character rest induction => simp [induction]

@[simp] theorem toList_alignLeft (width : Nat) (text : String) :
    (alignLeft width text).toList = text.toList ++ List.replicate (width - text.length) ' ' :=
  toList_pushn _ _ _

@[simp] theorem toList_alignRight (width : Nat) (text : String) :
    (alignRight width text).toList = List.replicate (width - text.length) ' ' ++ text.toList := by
  rw [alignRight, String.toList_append, toList_pushn]
  rfl

theorem splitCharacters_append (separator : Char) (first second : List Char) :
    splitCharacters separator (first ++ separator :: second) =
      splitCharacters separator first ++ splitCharacters separator second := by
  simp only [splitCharacters_eq_splitOn, List.splitOn_append_cons_self]

theorem splitCharacters_of_not_mem {separator : Char} {text : List Char}
    (whole : separator ∉ text) : splitCharacters separator text = [text] := by
  rw [splitCharacters_eq_splitOn]
  exact List.splitOn_eq_singleton whole

/-! ## What a reader sees -/

/-- The pieces of a line that stand between blanks. -/
def words (line : List Char) : List String :=
  ((splitCharacters ' ' line).filter (· ≠ [])).map String.ofList

/-- The words of each line. -/
def table (text : String) : List (List String) :=
  (splitCharacters '\n' text.toList).map words

/-- The label in front of the only colon of a line, and the words behind it. -/
def labelOf? (line : List Char) : Option (String × List String) :=
  match splitCharacters ':' line with
  | [label, value] => some (String.ofList label, words value)
  | _ => none

/-- The lines that have a label. -/
def labelled (text : String) : List (String × List String) :=
  (splitCharacters '\n' text.toList).filterMap labelOf?

/-- Whether a character is one of a word: neither blank nor the end of a label. -/
def isVisible (character : Char) : Bool :=
  32 < character.toNat && character != ':'

def IsWord (text : String) : Prop :=
  text ≠ "" ∧ text.toList.all isVisible

instance (text : String) : Decidable (IsWord text) :=
  inferInstanceAs (Decidable (_ ∧ _))

/-- Text that ends neither a line nor a label. -/
def IsPhrase (text : List Char) : Prop :=
  '\n' ∉ text ∧ ':' ∉ text

instance (text : List Char) : Decidable (IsPhrase text) :=
  inferInstanceAs (Decidable (_ ∧ _))

/-! ## Words -/

@[simp] theorem words_nil : words [] = [] := rfl

theorem words_append (first second : List Char) :
    words (first ++ ' ' :: second) = words first ++ words second := by
  simp [words, splitCharacters_append]

@[simp] theorem words_blanks (count : Nat) (rest : List Char) :
    words (List.replicate count ' ' ++ rest) = words rest := by
  induction count with
  | zero => rfl
  | succ count induction =>
      rw [List.replicate_succ, List.cons_append, ← induction]
      exact words_append [] _

/-- Blanks behind text are a gap, whether or not they were needed to fill a column. -/
theorem words_gap (first : List Char) (count : Nat) (second : List Char) :
    words (first ++ (List.replicate count ' ' ++ ' ' :: second)) = words first ++ words second := by
  cases count with
  | zero => exact words_append first second
  | succ count =>
      rw [List.replicate_succ, List.cons_append, words_append, words_blanks]
      exact congrArg _ (words_append [] second)

namespace IsWord

variable {text : String} (word : IsWord text)
include word

theorem not_mem {character : Char} (hidden : isVisible character = false) :
    character ∉ text.toList := by
  intro member
  rw [List.all_eq_true.mp word.2 character member] at hidden
  cases hidden

theorem words_eq : words text.toList = [text] := by
  have whole : ' ' ∉ text.toList := word.not_mem rfl
  have some : text.toList ≠ [] := fun empty => word.1 (String.toList_eq_nil_iff.mp empty)
  simp [words, splitCharacters_of_not_mem whole, some]

theorem isPhrase : IsPhrase text.toList :=
  ⟨word.not_mem rfl, word.not_mem rfl⟩

theorem append {more : String} (other : IsWord more) : IsWord (text ++ more) := by
  constructor
  · intro empty
    exact word.1 (String.append_eq_empty_iff.mp empty).1
  · rw [String.toList_append, List.all_append, word.2, other.2]
    rfl

end IsWord

/-- Two words with a blank between them. -/
theorem words_pair {first second gapped : String} (isFirst : IsWord first)
    (isSecond : IsWord second) (gap : gapped.toList = ' ' :: second.toList) :
    words (first ++ gapped).toList = [first, second] := by
  rw [String.toList_append, gap, words_append, isFirst.words_eq, isSecond.words_eq]
  rfl

/-! ## Numbers -/

/-- The number that decimal digits spell. -/
def decimal? (digits : String) : Option Nat :=
  if digits ≠ "" ∧ digits.toList.all Char.isDigit then
    some (Nat.ofDigitChars 10 digits.toList 0)
  else none

theorem isDigit_of_mem_toString {number : Nat} {character : Char}
    (member : character ∈ (toString number).toList) : character.isDigit := by
  have digits : (toString number).toList = Nat.toDigits 10 number := Nat.toList_repr
  rw [digits] at member
  exact Nat.isDigit_of_mem_toDigits (by decide) (by decide) member

theorem ofDigitChars_toString (number : Nat) :
    Nat.ofDigitChars 10 (toString number).toList 0 = number := by
  have digits : (toString number).toList = Nat.toDigits 10 number := Nat.toList_repr
  rw [digits, Nat.ofDigitChars_ten_toDigits]

/-- A number is read back from its digits. -/
@[simp] theorem decimal?_toString (number : Nat) : decimal? (toString number) = some number := by
  have some : toString number ≠ "" := Nat.repr_ne_empty
  have all : (toString number).toList.all Char.isDigit :=
    List.all_eq_true.mpr fun _ => isDigit_of_mem_toString
  rw [decimal?, if_pos ⟨some, all⟩, ofDigitChars_toString]

theorem isWord_toString (number : Nat) : IsWord (toString number) := by
  refine ⟨Nat.repr_ne_empty, List.all_eq_true.mpr fun character member => ?_⟩
  rcases Char.isDigit_iff_toNat.mp (isDigit_of_mem_toString member) with ⟨least, most⟩
  rw [isVisible, Bool.and_eq_true, decide_eq_true_eq, bne_iff_ne]
  refine ⟨Nat.lt_of_lt_of_le (by decide) least, ?_⟩
  rintro rfl
  exact absurd most (by decide)

/-! ## Lines -/

namespace IsPhrase

theorem append {first second : List Char} (left : IsPhrase first) (right : IsPhrase second) :
    IsPhrase (first ++ second) := by
  simp only [IsPhrase, List.mem_append, not_or]
  exact ⟨⟨left.1, right.1⟩, left.2, right.2⟩

theorem blanks (count : Nat) : IsPhrase (List.replicate count ' ') := by
  simp [IsPhrase, List.mem_replicate]

end IsPhrase

theorem table_line {line : String} (whole : '\n' ∉ line.toList) (rest : String) :
    table (line ++ "\n" ++ rest) = words line.toList :: table rest := by
  have lines := splitCharacters_append '\n' line.toList rest.toList
  rw [splitCharacters_of_not_mem whole] at lines
  simp [table, lines]

theorem labelOf?_append {label value : List Char} (name : ':' ∉ label) (single : ':' ∉ value) :
    labelOf? (label ++ ':' :: value) = some (String.ofList label, words value) := by
  rw [labelOf?, splitCharacters_append, splitCharacters_of_not_mem name,
    splitCharacters_of_not_mem single]
  rfl

theorem labelled_line {line : String} {label value : List Char}
    (cut : line.toList = label ++ ':' :: value) (name : IsPhrase label) (phrase : IsPhrase value)
    (rest : String) :
    labelled (line ++ "\n" ++ rest) = (String.ofList label, words value) :: labelled rest := by
  have whole : '\n' ∉ label ++ ':' :: value := by simp [name.1, phrase.1]
  have lines := splitCharacters_append '\n' (label ++ ':' :: value) rest.toList
  have characters : (line ++ "\n" ++ rest).toList =
      label ++ ':' :: value ++ '\n' :: rest.toList := by
    simp [cut]
  rw [labelled, characters, lines, splitCharacters_of_not_mem whole, List.singleton_append,
    List.filterMap_cons_some (labelOf?_append name.2 phrase.2)]
  rfl

end PackedRecords
