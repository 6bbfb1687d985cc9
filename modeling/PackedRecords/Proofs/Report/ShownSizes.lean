import Mathlib
import PackedRecords.Proofs.Text.Words
import PackedRecords.Report.SizeText

/-! # Sizes that a reader is shown

A size below one KiB is shown as it is. Larger ones are shown in hundredths of a unit,
rounded to the nearest.
-/

namespace PackedRecords

/-! ## Reading sizes -/

/-- A number with two decimal places, in hundredths. -/
def hundredths? (number : String) : Option Nat :=
  match splitText '.' number with
  | [whole, places] => do
      guard (places.length = 2)
      return 100 * (← decimal? whole) + (← decimal? places)
  | _ => none

/-- The hundredths of a unit are half of one off a size at most. Sizes of 53 binary
digits and more may be one part in `2 ^ 53` further off. -/
def IsNear (unit bytes hundredths : Nat) : Prop :=
  2 * |(100 * bytes - hundredths * unit : ℤ)| ≤ unit + (100 * (bytes / 2 ^ 52) : ℕ)

/-- The words give the size. -/
def GiveSize (bytes : Nat) : List String → Prop
  | [number, "B"] => decimal? number = some bytes
  | [number, "KiB"] => ∃ hundredths, hundredths? number = some hundredths ∧
      IsNear bytesPerKiB bytes hundredths
  | [number, "MiB"] => ∃ hundredths, hundredths? number = some hundredths ∧
      IsNear bytesPerMiB bytes hundredths
  | _ => False

/-! ## Rounding -/

/-- Rounding a quotient moves it by half of the divisor at most. -/
theorem abs_sub_divideToEven_le (number : Nat) {divisor : Nat} (positive : 0 < divisor) :
    2 * |(number - divideToEven number divisor * divisor : ℤ)| ≤ divisor := by
  have parts : (divisor * (number / divisor) + number % divisor : ℤ) = number := by
    exact_mod_cast Nat.div_add_mod number divisor
  rw [divideToEven]
  split
  case isTrue down =>
    have below : (number - (number / divisor : ℕ) * divisor : ℤ) = (number % divisor : ℕ) := by
      push_cast
      linarith
    rw [below, Nat.abs_cast]
    omega
  case isFalse up =>
    have above : (number - (number / divisor + 1 : ℕ) * divisor : ℤ) =
        (number % divisor : ℕ) - divisor := by
      push_cast
      linarith
    have small := Nat.mod_lt number positive
    rw [above, abs_of_nonpos (by omega)]
    omega

theorem divideToEven_one (number : Nat) : divideToEven number 1 = number := by
  simp [divideToEven, Nat.mod_one]

/-- Leaving out the binary digits behind the first 53 moves a number by one part in
`2 ^ 53` at most. -/
theorem abs_sub_toSignificantBits_le (number : Nat) :
    2 * |(number - toSignificantBits 53 number : ℤ)| ≤ (number / 2 ^ 52 : ℕ) := by
  rcases Nat.le_total (number.log2 + 1) 53 with short | long
  · have whole : toSignificantBits 53 number = number := by
      rw [toSignificantBits, Nat.sub_eq_zero_of_le short]
      simp [divideToEven_one]
    rw [whole, sub_self, abs_zero, mul_zero]
    exact Int.natCast_nonneg _
  · have positive : number ≠ 0 := by
      rintro rfl
      simp at long
    have power : 2 ^ 52 * 2 ^ (number.log2 + 1 - 53) ≤ number := by
      rw [← Nat.pow_add, show 52 + (number.log2 + 1 - 53) = number.log2 by omega]
      exact Nat.log2_self_le positive
    have dropped : 1 <<< (number.log2 + 1 - 53) = 2 ^ (number.log2 + 1 - 53) := by
      rw [Nat.shiftLeft_eq, Nat.one_mul]
    have near := abs_sub_divideToEven_le number
      (Nat.two_pow_pos (number.log2 + 1 - 53))
    rw [toSignificantBits, dropped, Nat.cast_mul]
    refine near.trans (Int.ofNat_le.mpr ?_)
    rw [Nat.le_div_iff_mul_le (by decide), Nat.mul_comm]
    exact power

/-- A quotient in hundredths is near its number. -/
theorem isNear_divideToEven {bytes rounded unit : Nat} (positive : 0 < unit)
    (close : 2 * |(bytes - rounded : ℤ)| ≤ (bytes / 2 ^ 52 : ℕ)) :
    IsNear unit bytes (divideToEven (rounded * 100) unit) := by
  have near := abs_sub_divideToEven_le (rounded * 100) positive
  have apart := abs_sub_le (100 * bytes : ℤ) (100 * rounded)
    (divideToEven (rounded * 100) unit * unit)
  have scaled : |(100 * bytes - 100 * rounded : ℤ)| = 100 * |(bytes - rounded : ℤ)| := by
    rw [← mul_sub, abs_mul]
    rfl
  rw [IsNear]
  push_cast at near ⊢
  rw [mul_comm (rounded : ℤ) 100] at near
  push_cast at close
  linarith

/-! ## What is shown -/

theorem not_mem_toString {character : Char} (other : character.isDigit = false) (number : Nat) :
    character ∉ (toString number).toList := by
  intro member
  rw [isDigit_of_mem_toString member] at other
  cases other

theorem decimal?_places {places : Nat} (two : places < 100) :
    decimal? (toString (places / 10) ++ toString (places % 10)) = some places ∧
      (toString (places / 10) ++ toString (places % 10)).length = 2 := by
  revert places
  decide +kernel

theorem hundredths?_hundredthsText (hundredths : Nat) :
    hundredths? (hundredthsText hundredths) = some hundredths := by
  have point : Char.isDigit '.' = false := rfl
  have places := decimal?_places (Nat.mod_lt hundredths (by decide : 0 < 100))
  have parts : splitText '.' (hundredthsText hundredths) =
      [toString (hundredths / 100),
        toString (hundredths % 100 / 10) ++ toString (hundredths % 100 % 10)] := by
    have text : hundredthsText hundredths = joinText '.' [toString (hundredths / 100),
        toString (hundredths % 100 / 10) ++ toString (hundredths % 100 % 10)] := by
      rw [hundredthsText, String.append_assoc]
      rfl
    rw [text]
    apply splitText_joinText (List.cons_ne_nil _ _)
    intro piece member
    rcases List.mem_pair.mp member with rfl | rfl
    · exact not_mem_toString point _
    · rw [String.toList_append, List.mem_append, not_or]
      exact ⟨not_mem_toString point _, not_mem_toString point _⟩
  have whole : 100 * (hundredths / 100) + hundredths % 100 = hundredths := Nat.div_add_mod _ _
  rw [hundredths?, parts]
  simp only [places.1, places.2, decimal?_toString, guard_true, Option.bind_eq_bind,
    Option.bind_some, whole]
  rfl

theorem isWord_hundredthsText (hundredths : Nat) : IsWord (hundredthsText hundredths) := by
  have point : IsWord "." := by decide
  exact (((isWord_toString _).append point).append (isWord_toString _)).append (isWord_toString _)

/-- The words of the text of a size give the size. -/
theorem giveSize_sizeText (bytes : Nat) : GiveSize bytes (words (sizeText bytes).toList) := by
  rw [sizeText]
  split_ifs with mebi kibi
  · rw [quotientText, words_pair (isWord_hundredthsText _) (by decide : IsWord "MiB") rfl]
    exact ⟨_, hundredths?_hundredthsText _,
      isNear_divideToEven (by decide) (abs_sub_toSignificantBits_le bytes)⟩
  · rw [quotientText, words_pair (isWord_hundredthsText _) (by decide : IsWord "KiB") rfl]
    refine ⟨_, hundredths?_hundredthsText _, isNear_divideToEven (by decide) ?_⟩
    rw [sub_self, abs_zero, mul_zero]
    exact Int.natCast_nonneg _
  · rw [words_pair (isWord_toString bytes) (by decide : IsWord "B") rfl]
    exact decimal?_toString bytes

theorem isPhrase_sizeText (bytes : Nat) : IsPhrase (sizeText bytes).toList := by
  rw [sizeText]
  split_ifs with mebi kibi <;> rw [String.toList_append]
  · exact (isWord_hundredthsText _).isPhrase.append (by decide)
  · exact (isWord_hundredthsText _).isPhrase.append (by decide)
  · exact (isWord_toString bytes).isPhrase.append (by decide)

end PackedRecords
