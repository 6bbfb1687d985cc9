/-! # Quotients with two decimal places

`divideToEven` rounds a quotient to the nearest whole number, and `toSignificantBits`
a number to one with few binary digits. Both give a value halfway between two
candidates to the even one.
-/

namespace PackedRecords

/-- The whole number nearest to `number / divisor`; of two that are equally near, the
even one. -/
def divideToEven (number divisor : Nat) : Nat :=
  let quotient := number / divisor
  let doubled := 2 * (number % divisor)
  if doubled < divisor ∨ doubled = divisor ∧ quotient % 2 = 0 then quotient
  else quotient + 1

/-- The number nearest to `number` that is at most `bits` binary digits followed by
zeros. -/
def toSignificantBits (bits number : Nat) : Nat :=
  let dropped := 1 <<< (number.log2 + 1 - bits)
  divideToEven number dropped * dropped

def hundredthsText (hundredths : Nat) : String :=
  let places := hundredths % 100
  toString (hundredths / 100) ++ "." ++ toString (places / 10) ++ toString (places % 10)

def quotientText (number divisor : Nat) : String :=
  hundredthsText (divideToEven (number * 100) divisor)

private example : quotientText 1152 1024 = "1.12" ∧ quotientText 1664 1024 = "1.62" ∧
    quotientText 1920 1024 = "1.88" := by decide +kernel

private example : toSignificantBits 53 (2 ^ 53 + 1) = 2 ^ 53 ∧
    toSignificantBits 53 (2 ^ 53 + 3) = 2 ^ 53 + 4 := by decide

end PackedRecords
