import PackedRecords.Text.Hundredths

/-! # Sizes for a reader

Small sizes are given in bytes, larger ones in binary units with two decimal places.
-/

namespace PackedRecords

def bytesPerKiB : Nat := 1024

def bytesPerMiB : Nat := 1024 * 1024

/-- A size in the largest unit it reaches. Sizes beyond 53 binary digits are rounded
to that many first. -/
def sizeText (bytes : Nat) : String :=
  if bytesPerMiB ≤ bytes then
    quotientText (toSignificantBits 53 bytes) bytesPerMiB ++ " MiB"
  else if bytesPerKiB ≤ bytes then
    quotientText bytes bytesPerKiB ++ " KiB"
  else toString bytes ++ " B"

end PackedRecords
