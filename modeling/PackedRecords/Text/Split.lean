/-! # Separated text

Cutting text at every occurrence of a separator, and joining the pieces again.
-/

namespace PackedRecords

/-- Puts one more character in front of text that has been cut already. -/
def splitStep (separator character : Char) : List (List Char) → List (List Char)
  | [] => [[character]]
  | piece :: pieces =>
      if character = separator then [] :: piece :: pieces
      else (character :: piece) :: pieces

/-- The pieces between separators; there is one more piece than separators. -/
def splitCharacters (separator : Char) (text : List Char) : List (List Char) :=
  text.foldr (splitStep separator) [[]]

def splitText (separator : Char) (text : String) : List String :=
  (splitCharacters separator text.toList).map String.ofList

def joinText (separator : Char) : List String → String
  | [] => ""
  | piece :: pieces =>
      pieces.foldl (fun text next => text.push separator ++ next) piece

theorem splitCharacters_ne_nil (separator : Char) (text : List Char) :
    splitCharacters separator text ≠ [] := by
  cases text with
  | nil => simp [splitCharacters]
  | cons character rest =>
      simp only [splitCharacters, List.foldr_cons]
      rw [splitStep.eq_def]
      split
      · simp
      · split <;> simp

end PackedRecords
