/-! # Columns of text

Text is widened with spaces to the width of its column; longer text is left whole.
-/

namespace PackedRecords

def alignLeft (width : Nat) (text : String) : String :=
  text.pushn ' ' (width - text.length)

def alignRight (width : Nat) (text : String) : String :=
  "".pushn ' ' (width - text.length) ++ text

private example : alignLeft 4 "ab" = "ab  " ∧ alignRight 4 "ab" = "  ab" ∧
    alignRight 1 "ab" = "ab" := by decide +kernel

end PackedRecords
