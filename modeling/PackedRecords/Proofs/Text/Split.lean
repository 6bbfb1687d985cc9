import PackedRecords.Text.Split

/-! # Cutting and joining

Joining the pieces of a text gives the text back, and cutting a text that has been
joined from pieces without the separator gives the pieces back.
-/

namespace PackedRecords

variable {separator : Char}

theorem splitCharacters_eq_splitOn (separator : Char) (text : List Char) :
    splitCharacters separator text = text.splitOn separator := by
  induction text with
  | nil => rfl
  | cons character rest induction =>
      have pieces := splitCharacters_ne_nil separator rest
      rw [List.splitOn_cons_eq_if_modifyHead, ← induction]
      change splitStep separator character (splitCharacters separator rest) = _
      cases split : splitCharacters separator rest with
      | nil => exact absurd split pieces
      | cons piece others => simp [splitStep]

theorem toList_joinText (separator : Char) (pieces : List String) :
    (joinText separator pieces).toList =
      [separator].intercalate (pieces.map String.toList) := by
  cases pieces with
  | nil => simp [joinText]
  | cons piece others =>
      rw [joinText]
      induction others generalizing piece with
      | nil => simp
      | cons next others induction =>
          rw [List.foldl_cons, induction]
          cases others <;> simp

/-- Joining some of the first pieces gives the beginning of the text. -/
theorem joinText_begins {pieces more : List String} (begins : pieces <+: more) :
    (joinText separator pieces).toList <+: (joinText separator more).toList := by
  rw [toList_joinText, toList_joinText]
  induction pieces generalizing more with
  | nil => exact List.nil_prefix
  | cons piece others induction =>
      rcases begins with ⟨rest, rfl⟩
      have later := induction (List.prefix_append others rest)
      cases others with
      | nil =>
          cases rest with
          | nil => simp
          | cons next rest => simp
      | cons next others =>
          simpa [List.prefix_append_right_inj] using later

@[simp] theorem joinText_splitText (separator : Char) (text : String) :
    joinText separator (splitText separator text) = text := by
  apply String.toList_inj.mp
  rw [toList_joinText, splitText, List.map_map, splitCharacters_eq_splitOn]
  simp [Function.comp_def]

theorem not_mem_of_mem_splitCharacters {text piece : List Char}
    (member : piece ∈ splitCharacters separator text) : separator ∉ piece := by
  induction text generalizing piece with
  | nil =>
      rw [List.mem_singleton.mp member]
      exact List.not_mem_nil
  | cons character rest induction =>
      change piece ∈ splitStep separator character (splitCharacters separator rest) at member
      cases split : splitCharacters separator rest with
      | nil => exact absurd split (splitCharacters_ne_nil separator rest)
      | cons first others =>
          rw [split] at induction member
          rw [splitStep] at member
          by_cases same : character = separator
          · rw [if_pos same, List.mem_cons] at member
            rcases member with rfl | later
            · exact List.not_mem_nil
            · exact induction later
          · rw [if_neg same, List.mem_cons] at member
            rcases member with rfl | later
            · simpa [Ne.symm same] using induction List.mem_cons_self
            · exact induction (List.mem_cons_of_mem _ later)

theorem not_mem_of_mem_splitText {text piece : String}
    (member : piece ∈ splitText separator text) : separator ∉ piece.toList := by
  rcases List.mem_map.mp member with ⟨characters, found, rfl⟩
  rw [String.toList_ofList]
  exact not_mem_of_mem_splitCharacters found

theorem splitText_joinText {pieces : List String} (some : pieces ≠ [])
    (whole : ∀ piece ∈ pieces, separator ∉ piece.toList) :
    splitText separator (joinText separator pieces) = pieces := by
  have cut : ∀ characters ∈ pieces.map String.toList, separator ∉ characters := by
    intro characters member
    rcases List.mem_map.mp member with ⟨piece, held, rfl⟩
    exact whole piece held
  rw [splitText, splitCharacters_eq_splitOn, toList_joinText,
    List.splitOn_intercalate separator cut (by simpa using some), List.map_map]
  simp [Function.comp_def]

end PackedRecords
