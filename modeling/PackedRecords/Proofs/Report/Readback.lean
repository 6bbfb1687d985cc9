import PackedRecords.Proofs.EntityId.WrittenForm
import PackedRecords.Proofs.Report.ShownSizes
import PackedRecords.Proofs.Text.JsonReading
import PackedRecords.Report.Summary

/-! # Reading reports back

What a listing or a summary shows is found in its text, whether it is written for a reader
or as a document: every entry of a listing, and all totals of a summary.
-/

namespace PackedRecords

/-! ## Listings -/

namespace Listing

/-- The length that a number stands for, if a record can have it. -/
def length? (number : Nat) : Option UInt32 :=
  if number < UInt32.size then some (UInt32.ofNat number) else none

/-- The entry that a row of a table shows. -/
def ofRow? : List String → Option RecordInfo
  | [key, offset, length] => do
      return ⟨← EntityId.ofText? key, ← decimal? offset, ← (decimal? length).bind length?⟩
  | _ => none

/-- The entries that a table shows between its heading and an empty line. Behind that line
it says how many they are. -/
def ofTable? : List (List String) → Option (List RecordInfo)
  | ["KEY", "OFFSET", "LENGTH"] :: rows => do
      let entries ← (rows.takeWhile (· ≠ [])).mapM ofRow?
      guard (rows.dropWhile (· ≠ []) = [[], [toString entries.length, "record(s)"], []])
      return entries
  | _ => none

def ofItem? : JsonValue → Option RecordInfo
  | .object [("key", .text key), ("offset", .number offset), ("length", .number length)] => do
      return ⟨← EntityId.ofText? key, offset, ← length? length⟩
  | _ => none

/-- The entries that a document shows. -/
def ofJson? : JsonValue → Option (List RecordInfo)
  | .list items => items.mapM ofItem?
  | _ => none

/-- The entries that a listing shows. -/
def read? (format : ReportFormat) (output : String) : Option (List RecordInfo) :=
  match format with
  | .text => ofTable? (table output)
  | .json => (JsonValue.ofText? output).bind ofJson?

@[simp] theorem length?_toNat (length : UInt32) : length? length.toNat = some length := by
  rw [length?, if_pos length.toNat_lt, UInt32.ofNat_toNat]

/-- The cells of an entry's row. -/
def cells (info : RecordInfo) : List String :=
  [info.key.toText, toString info.offset, toString info.length.toNat]

@[simp] theorem ofRow?_cells (info : RecordInfo) : ofRow? (cells info) = some info := by
  rw [cells, ofRow?, EntityId.ofText?_toText, decimal?_toString, decimal?_toString,
    Option.bind_some, length?_toNat]
  rfl

/-- What has been written one by one is read one by one. -/
theorem mapM_map {α β : Type} {write : α → β} {read : β → Option α}
    (back : ∀ value, read (write value) = some value) (values : List α) :
    (values.map write).mapM read = some values := by
  induction values with
  | nil => rfl
  | cons value rest induction =>
      rw [List.map_cons, List.mapM_cons, back, induction]
      rfl

/-- Columns widen words, and leave them the words of their row. -/
theorem table_row {key offset length : String} (isKey : IsWord key) (isOffset : IsWord offset)
    (isLength : IsWord length) (rest : String) :
    table (row key offset length ++ rest) = [key, offset, length] :: table rest := by
  have line : (alignLeft 36 key ++ "  " ++ alignRight 12 offset ++ "  " ++
      alignRight 8 length).toList =
      key.toList ++ (List.replicate (36 - key.length) ' ' ++ ' ' ::
        (List.replicate (12 - offset.length + 1) ' ' ++ (offset.toList ++ ' ' ::
          (List.replicate (8 - length.length + 1) ' ' ++ length.toList)))) := by
    simp [List.replicate_succ]
  have whole : '\n' ∉ (alignLeft 36 key ++ "  " ++ alignRight 12 offset ++ "  " ++
      alignRight 8 length).toList := by
    simp [isKey.isPhrase.1, isOffset.isPhrase.1, isLength.isPhrase.1]
  rw [row, table_line whole, line, words_gap, words_blanks, words_append, words_blanks,
    isKey.words_eq, isOffset.words_eq, isLength.words_eq]
  rfl

theorem table_recordRow (info : RecordInfo) (rest : String) :
    table (recordRow info ++ rest) = cells info :: table rest :=
  table_row info.key.isWord_toText (isWord_toString _) (isWord_toString _) rest

theorem table_recordRows (entries : List RecordInfo) (rest : String) :
    table (String.join (entries.map recordRow) ++ rest) = entries.map cells ++ table rest := by
  induction entries with
  | nil => rw [List.map_nil, String.join_nil, String.empty_append]; rfl
  | cons info entries induction =>
      rw [List.map_cons, String.join_cons, String.append_assoc, table_recordRow, induction]
      rfl

/-- Behind its rows a listing says how many they are. -/
theorem table_count (count : Nat) :
    table ("\n" ++ toString count ++ " record(s)\n") =
      [[], [toString count, "record(s)"], []] := by
  have lines : "\n" ++ toString count ++ " record(s)\n" =
      "" ++ "\n" ++ (toString count ++ " record(s)" ++ "\n" ++ "") := by
    apply String.toList_inj.mp
    simp
  have whole : '\n' ∉ (toString count ++ " record(s)").toList := by
    rw [String.toList_append, List.mem_append, not_or]
    exact ⟨(isWord_toString count).isPhrase.1, by decide⟩
  rw [lines, table_line (by decide), table_line whole,
    words_pair (isWord_toString count) (by decide : IsWord "record(s)") rfl]
  rfl

theorem ofTable?_rows (entries : List RecordInfo) :
    ofTable? (["KEY", "OFFSET", "LENGTH"] :: (entries.map cells ++
      [[], [toString entries.length, "record(s)"], []])) = some entries := by
  have filled : ∀ row ∈ entries.map cells, decide (row ≠ []) := by
    intro row member
    rcases List.mem_map.mp member with ⟨info, _, rfl⟩
    rfl
  rw [ofTable?, List.takeWhile_append_of_pos filled, List.dropWhile_append_of_pos filled]
  change ((entries.map cells ++ []).mapM ofRow?).bind _ = _
  rw [List.append_nil, mapM_map ofRow?_cells, Option.bind_some, List.dropWhile_cons,
    if_neg (by decide)]
  simp

/-- The entries of a listing are read back. -/
theorem read?_render (format : ReportFormat) (entries : List RecordInfo) :
    read? format (render format entries) = some entries := by
  cases format with
  | text =>
      have heading : ∀ rest, table (row "KEY" "OFFSET" "LENGTH" ++ rest) =
          ["KEY", "OFFSET", "LENGTH"] :: table rest :=
        table_row (by decide) (by decide) (by decide)
      rw [read?, render, toText]
      simp only [String.append_assoc]
      rw [heading, table_recordRows, ← String.append_assoc, table_count, ofTable?_rows]
  | json =>
      rw [render, read?, JsonValue.ofText?_toText, Option.bind_some, toJson, ofJson?]
      apply mapM_map
      intro info
      rw [ofItem?, EntityId.ofText?_toText, length?_toNat]
      rfl

end Listing

/-! ## Summaries -/

/-- What stands behind a label: how many there are, or how large something is. -/
inductive Figure where
  | count (number : Nat)
  | size (bytes : Nat)

/-- The words give the figure. -/
def Figure.GivenBy : Figure → List String → Prop
  | count number, words => ∃ digits, words = [digits] ∧ decimal? digits = some number
  | size bytes, words => GiveSize bytes words

namespace Summary

/-- The totals that a document shows. -/
def ofJson? : JsonValue → Option Summary
  | .object (("path", .text path) :: ("file_size", .number fileSize) ::
      ("record_count", .number recordCount) :: ("payload_bytes", .number payloadBytes) ::
      ("header_bytes", .number headerBytes) :: largest) =>
      match largest with
      | [] => some ⟨⟨path⟩, fileSize, recordCount, payloadBytes, headerBytes, none⟩
      | [("largest_payload", .number largest)] =>
          some ⟨⟨path⟩, fileSize, recordCount, payloadBytes, headerBytes, some largest⟩
      | _ => none
  | _ => none

/-- What a summary for a reader begins with. -/
def title (path : Path) : String :=
  "roledb Record File\n==================\n\nPath:          " ++ path.text ++ "\n"

/-- The labels of a summary for a reader, with what stands behind them. -/
def figures (totals : Summary) : List (String × Figure) :=
  [("File size", .size totals.fileSize), ("Records", .count totals.recordCount),
    ("Payload bytes", .size totals.payloadBytes), ("Header bytes", .size totals.headerBytes)] ++
    totals.largest?.toList.map fun largest => ("Largest", .size largest)

/-- The totals are shown: as a document they are read back from it, and to a reader the
lines behind the path give them, under their labels and in this order. -/
def Shows (format : ReportFormat) (output : String) (totals : Summary) : Prop :=
  match format with
  | .text => ∃ lines, output = title totals.path ++ lines ∧
      List.Forall₂ (fun line figure => line.1 = figure.1 ∧ figure.2.GivenBy line.2)
        (labelled lines) totals.figures
  | .json => (JsonValue.ofText? output).bind ofJson? = some totals

theorem title_eq_join (path : Path) :
    title path = String.join
      ["roledb Record File\n", "==================\n", "\n", "Path:          ", path.text,
        "\n"] := by
  have heading : "roledb Record File\n==================\n\nPath:          " =
      "roledb Record File\n" ++ ("==================\n" ++ ("\n" ++ "Path:          ")) := by
    decide +kernel
  refine (congrArg (· ++ path.text ++ "\n") heading).trans ?_
  simp only [String.join_cons, String.join_nil, String.append_empty, String.append_assoc]

/-- The text of a summary without its title. -/
def lines (totals : Summary) : String :=
  String.join [
    "File size:     ", sizeText totals.fileSize, "\n",
    "Records:       ", toString totals.recordCount, "\n",
    "Payload bytes: ", sizeText totals.payloadBytes, "\n",
    "Header bytes:  ", sizeText totals.headerBytes, "\n",
    totals.largestLine]

theorem toText_eq (totals : Summary) : totals.toText = title totals.path ++ totals.lines := by
  rw [title_eq_join, lines, ← String.join_append]
  rfl

/-- A line that begins with a label and its colon, and with blanks up to what it shows. -/
theorem labelled_join (label : String) {lead value : String} {width : Nat}
    (cut : lead.toList = label.toList ++ ':' :: List.replicate width ' ')
    (name : IsPhrase label.toList) (phrase : IsPhrase value.toList) (rest : List String) :
    labelled (String.join (lead :: value :: "\n" :: rest)) =
      (label, words value.toList) :: labelled (String.join rest) := by
  have line : (lead ++ value).toList =
      label.toList ++ ':' :: (List.replicate width ' ' ++ value.toList) := by
    rw [String.toList_append, cut, List.append_assoc, List.cons_append]
  have shown := labelled_line line name ((IsPhrase.blanks width).append phrase) (String.join rest)
  rw [words_blanks, String.ofList_toList] at shown
  rw [← shown]
  simp only [String.join_cons, String.append_assoc]

theorem labelled_largestLine (totals : Summary) :
    labelled (String.join [totals.largestLine]) =
      totals.largest?.toList.map fun largest => ("Largest", words (sizeText largest).toList) := by
  have lead : "Largest:       ".toList = "Largest".toList ++ ':' :: List.replicate 7 ' ' := rfl
  rw [largestLine]
  cases totals.largest? with
  | none => rfl
  | some largest =>
      have line := labelled_join "Largest" lead (by decide) (isPhrase_sizeText largest) []
      have parts : String.join ["Largest:       " ++ sizeText largest ++ "\n"] =
          String.join ["Largest:       ", sizeText largest, "\n"] := by
        simp only [String.join_cons, String.join_nil, String.append_empty, String.append_assoc]
      exact (congrArg labelled parts).trans line

/-- What is printed of totals shows them. -/
theorem shows_render (format : ReportFormat) (totals : Summary) :
    Shows format (totals.render format) totals := by
  cases format with
  | text =>
      have fileSize : "File size:     ".toList =
          "File size".toList ++ ':' :: List.replicate 5 ' ' := rfl
      have records : "Records:       ".toList =
          "Records".toList ++ ':' :: List.replicate 7 ' ' := rfl
      have payload : "Payload bytes: ".toList =
          "Payload bytes".toList ++ ':' :: List.replicate 1 ' ' := rfl
      have headers : "Header bytes:  ".toList =
          "Header bytes".toList ++ ':' :: List.replicate 2 ' ' := rfl
      refine ⟨_, totals.toText_eq, ?_⟩
      rw [lines, labelled_join "File size" fileSize (by decide) (isPhrase_sizeText _),
        labelled_join "Records" records (by decide) (isWord_toString _).isPhrase,
        labelled_join "Payload bytes" payload (by decide) (isPhrase_sizeText _),
        labelled_join "Header bytes" headers (by decide) (isPhrase_sizeText _),
        labelled_largestLine, (isWord_toString _).words_eq]
      refine .cons ⟨rfl, giveSize_sizeText _⟩ (.cons ⟨rfl, _, rfl, decimal?_toString _⟩
        (.cons ⟨rfl, giveSize_sizeText _⟩ (.cons ⟨rfl, giveSize_sizeText _⟩ ?_)))
      cases totals.largest? with
      | none => exact .nil
      | some largest => exact .cons ⟨rfl, giveSize_sizeText largest⟩ .nil
  | json =>
      rw [Shows, render, JsonValue.ofText?_toText, Option.bind_some, toJson]
      cases totals with
      | mk path fileSize recordCount payloadBytes headerBytes largest? =>
          cases largest? <;> rfl

end Summary

end PackedRecords
