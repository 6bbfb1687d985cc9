import PackedRecords.Proofs.Disk.Files
import PackedRecords.Proofs.Text.Split

/-! # Parents of paths

Whoever follows a path to a file passes through directories up to the last name. The
parent of a path is made of pieces that are passed in this way, so it leads to a
directory.
-/

namespace PackedRecords

namespace Path

theorem dropEnd_begins (pieces : List String) : dropEnd pieces <+: pieces := by
  have kept := (List.dropWhile_suffix (l := pieces.reverse) fun piece => !isStep piece).reverse
  rwa [List.reverse_reverse] at kept

theorem throughName_begins (path : Path) (pieces : List String) :
    path.throughName pieces <+: pieces := by
  rw [throughName.eq_def]
  split
  · exact (List.prefix_cons_inj _).mpr (dropEnd_begins _)
  · exact dropEnd_begins _

/-- Nothing stands behind a last name. -/
theorem dropEnd_concat {last : String} (step : isStep last) (front : List String) :
    dropEnd (front ++ [last]) = front ++ [last] := by
  simp [dropEnd, step]

theorem throughName_concat {last : String} (step : isStep last) (path : Path)
    (front : List String) : path.throughName (front ++ [last]) = front ++ [last] := by
  rw [throughName.eq_def]
  split
  · rename_i rest absolute split
    cases front with
    | nil =>
        cases split
        cases step
    | cons first front =>
        rw [List.cons_append] at split
        rcases List.cons.inj split with ⟨head, tail⟩
        rw [← tail, ← head, dropEnd_concat step]
        rfl
  · exact dropEnd_concat step front

theorem pieces_of_isAbsolute {path : Path} (absolute : path.isAbsolute) :
    ∃ rest, path.pieces = "" :: rest := by
  rw [isAbsolute, decide_eq_true_eq, List.head?_eq_some_iff] at absolute
  rcases absolute with ⟨characters, text⟩
  refine ⟨(splitCharacters '/' characters).map String.ofList, ?_⟩
  have cut := splitCharacters_ne_nil '/' characters
  rw [pieces, splitText, text]
  change (splitStep '/' '/' (splitCharacters '/' characters)).map String.ofList = _
  cases split : splitCharacters '/' characters with
  | nil => exact absurd split cut
  | cons first others => rfl

/-- The parent of a path to a name has some of the pieces in front of that name, behind
the root if the path is absolute. -/
theorem parent?_of_pieces {path : Path} {front : List String} {last : String}
    (split : path.pieces = front ++ [last]) (step : isStep last) :
    ∃ names, path.parent? = some (path.join names) ∧
      names <+: if path.isAbsolute then front.tail else front := by
  have named : (if path.isAbsolute then path.pieces.tail else path.pieces) =
      (if path.isAbsolute then front.tail else front) ++ [last] := by
    cases absolute : path.isAbsolute with
    | false => simpa using split
    | true =>
        rcases pieces_of_isAbsolute absolute with ⟨rest, pieces⟩
        cases front with
        | nil =>
            rw [pieces] at split
            cases split
            cases step
        | cons first front => simp [split]
  refine ⟨path.throughName (if path.isAbsolute then front.tail else front), ?_,
    path.throughName_begins _⟩
  rw [parent?, named, throughName_concat step]
  split
  · rename_i empty
    simp at empty
  · rw [List.dropLast_concat]

end Path

namespace Disk

/-! ## Passing through directories -/

/-- All pieces of a path are passed from the directory `here`: those that are names are
names of directories. -/
def Passes (disk : Disk) (here : List String) : List String → Prop
  | [] => True
  | piece :: rest =>
      if piece = "" ∨ piece = "." then disk.Passes here rest
      else if piece = ".." then disk.Passes here.dropLast rest
      else disk.find (here ++ [piece]) = .ok (some .directory) ∧
        disk.Passes (here ++ [piece]) rest

variable {disk : Disk}

theorem Passes.of_begins {here pieces more : List String} (passes : disk.Passes here more)
    (begins : pieces <+: more) : disk.Passes here pieces := by
  induction pieces generalizing here more with
  | nil => trivial
  | cons piece pieces induction =>
      rcases begins with ⟨rest, rfl⟩
      have later := List.prefix_append pieces rest
      rw [List.cons_append, Passes] at passes
      rw [Passes]
      split at passes
      · rename_i stays
        rw [if_pos stays]
        exact induction passes later
      · rename_i moves
        rw [if_neg moves]
        split at passes
        · rename_i up
          rw [if_pos up]
          exact induction passes later
        · rename_i down
          rw [if_neg down]
          exact ⟨passes.1, induction passes.2 later⟩

/-- What is passed leads to a directory. -/
theorem Passes.follow {here pieces : List String} (passes : disk.Passes here pieces) :
    disk.follow here pieces = .ok .directory ∨
      ∃ names asDirectory, disk.follow here pieces = .ok (.name names asDirectory) ∧
        disk.find names = .ok (some .directory) := by
  induction pieces generalizing here with
  | nil => exact .inl rfl
  | cons piece pieces induction =>
      rw [Passes] at passes
      rw [Disk.follow]
      split at passes
      · rename_i stays
        rw [if_pos stays]
        exact induction passes
      · rename_i moves
        rw [if_neg moves]
        split at passes
        · rename_i up
          rw [if_pos up]
          exact induction passes
        · rename_i down
          rw [if_neg down]
          rcases passes with ⟨found, later⟩
          by_cases last : pieces.all (· = "")
          · rw [if_pos last]
            exact .inr ⟨_, _, rfl, found⟩
          · rw [if_neg last, found]
            exact induction later

/-- Up to the name of a file everything is passed. -/
theorem passes_of_follow {here pieces names : List String}
    (followed : disk.follow here pieces = .ok (.name names false)) :
    ∃ front last, pieces = front ++ [last] ∧ Path.isStep last ∧ disk.Passes here front := by
  induction pieces generalizing here with
  | nil => cases followed
  | cons piece pieces induction =>
      rw [Disk.follow] at followed
      split at followed
      · rename_i stays
        rcases induction followed with ⟨front, last, split, step, passes⟩
        refine ⟨piece :: front, last, ?_, step, ?_⟩
        · rw [split, List.cons_append]
        · rwa [Passes, if_pos stays]
      · rename_i moves
        split at followed
        · rename_i up
          rcases induction followed with ⟨front, last, split, step, passes⟩
          refine ⟨piece :: front, last, ?_, step, ?_⟩
          · rw [split, List.cons_append]
          · rwa [Passes, if_neg moves, if_pos up]
        · rename_i down
          split at followed
          · cases pieces with
            | nil => exact ⟨[], piece, rfl, by simpa [Path.isStep] using moves, trivial⟩
            | cons next pieces => cases followed
          · split at followed
            · rename_i found
              rcases induction followed with ⟨front, last, split, step, passes⟩
              refine ⟨piece :: front, last, ?_, step, ?_⟩
              · rw [split, List.cons_append]
              · rw [Passes, if_neg moves, if_neg down]
                exact ⟨found, passes⟩
            all_goals cases followed

/-! ## Parents -/

/-- The beginning of a path that can be followed can be followed if it is passed. -/
theorem locate_of_passes {path front : Path} {place : Place}
    (located : disk.locate path = .ok place) (begins : front.text.toList <+: path.text.toList)
    (some : front.text ≠ "") (passes : disk.Passes [] front.pieces) :
    disk.LeadsToDirectory front := by
  rcases locate_ok_iff.mp located with ⟨⟨printable, short, _⟩, _⟩
  rcases begins with ⟨more, split⟩
  have text : path.text = front.text ++ String.ofList more := by
    apply String.toList_inj.mp
    rw [String.toList_append, String.toList_ofList, split]
  have accepted : Char.ofNat 0 ∉ front.text.toList ∧
      front.text.utf8ByteSize ≤ pathLimit ∧ front.text ≠ "" := by
    rw [text] at printable short
    rw [String.toList_append, List.mem_append, not_or] at printable
    rw [String.utf8ByteSize_append] at short
    exact ⟨printable.1, by omega, some⟩
  rcases passes.follow with stepped | ⟨names, asDirectory, followed, found⟩
  · exact .inl (locate_ok_iff.mpr ⟨accepted, stepped⟩)
  · exact .inr ⟨names, asDirectory, locate_ok_iff.mpr ⟨accepted, followed⟩, found⟩

/-- Some of the first pieces of a path lead to a directory if they are passed. -/
theorem leadsToDirectory_of_pieces {path : Path} {place : Place}
    (located : disk.locate path = .ok place) {pieces : List String}
    (begins : pieces <+: path.pieces) (some : joinText '/' pieces ≠ "")
    (passes : disk.Passes [] pieces) : disk.LeadsToDirectory ⟨joinText '/' pieces⟩ := by
  have nonempty : pieces ≠ [] := by
    rintro rfl
    exact some rfl
  have whole : ∀ piece ∈ pieces, '/' ∉ piece.toList :=
    fun piece member => not_mem_of_mem_splitText (begins.mem member)
  have text : joinText '/' path.pieces = path.text := joinText_splitText '/' path.text
  have same : (⟨joinText '/' pieces⟩ : Path).pieces = pieces :=
    splitText_joinText nonempty whole
  have characters : (joinText '/' pieces).toList <+: (joinText '/' path.pieces).toList :=
    joinText_begins begins
  rw [text] at characters
  rw [← same] at passes
  exact locate_of_passes located characters some passes

/-- Where there is a file, its parent is a directory. -/
theorem hasParent_of_openFile {path : Path} {number : Nat}
    (opened : openFile path false disk = .ok number disk) : disk.HasParent path := by
  rcases openFile_ok opened with ⟨names, located, _⟩
  have followed := (locate_ok_iff.mp located).2
  rcases passes_of_follow followed with ⟨front, last, split, step, passes⟩
  rcases Path.parent?_of_pieces split step with ⟨kept, named, begins⟩
  have fronts : front <+: path.pieces := by
    rw [split]
    exact List.prefix_append _ _
  intro parent same some
  rw [named] at same
  cases same
  -- An absolute path keeps its leading slash, which counts as an empty first piece.
  cases absolute : path.isAbsolute with
  | false =>
      have text : path.join kept = ⟨joinText '/' kept⟩ := by simp [Path.join, absolute]
      simp only [absolute, Bool.false_eq_true, if_false] at begins
      rw [text] at some ⊢
      exact leadsToDirectory_of_pieces located (begins.trans fronts) some
        (passes.of_begins begins)
  | true =>
      rcases Path.pieces_of_isAbsolute absolute with ⟨rest, pieces⟩
      simp only [absolute, if_true] at begins
      cases kept with
      | nil =>
          have text : path.join [] = ⟨"/"⟩ := by simp [Path.join, absolute, joinText]
          rw [text]
          have root : (⟨"/"⟩ : Path).pieces = ["", ""] := by decide +kernel
          have stays : disk.Passes [] (⟨"/"⟩ : Path).pieces := by simp [root, Passes]
          have start : "/".toList <+: path.text.toList := by
            rw [Path.isAbsolute, decide_eq_true_eq, List.head?_eq_some_iff] at absolute
            rcases absolute with ⟨characters, whole⟩
            simp [whole]
          exact locate_of_passes located start (by decide) stays
      | cons first kept =>
          have text : path.join (first :: kept) = ⟨joinText '/' ("" :: first :: kept)⟩ := by
            rw [Path.join, if_pos absolute, Path.mk.injEq]
            apply String.toList_inj.mp
            simp [toList_joinText]
          have longer : "" :: first :: kept <+: front := by
            cases front with
            | nil => cases List.prefix_nil.mp begins
            | cons other front =>
                rw [pieces, List.cons_append] at split
                rw [(List.cons.inj split).1]
                exact (List.prefix_cons_inj other).mpr begins
          rw [text] at some ⊢
          exact leadsToDirectory_of_pieces located (longer.trans fronts) some
            (passes.of_begins longer)

end Disk

end PackedRecords
