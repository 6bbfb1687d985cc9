import PackedRecords.Text.Split

/-! # Paths

A path is text; `/` separates its names. Names that are empty or a single dot
stand for the place already reached, so `a//b` and `a/./b` name the same file, but
a dot in front of a relative path is one of its names.
-/

namespace PackedRecords

/-- A path as it was written. -/
structure Path where
  text : String
deriving DecidableEq, Inhabited

namespace Path

/-- The path that a text names from a directory; no text at all names the directory. -/
def within (text : String) : Path :=
  if text = "" then ⟨"."⟩ else ⟨text⟩

def isAbsolute (path : Path) : Bool :=
  path.text.toList.head? = some '/'

/-- The text between separators, empty pieces included. -/
def pieces (path : Path) : List String :=
  splitText '/' path.text

/-- Whether a piece of a path leads anywhere: nothing between two separators, and a
single dot, do not. -/
def isStep (piece : String) : Bool :=
  piece ≠ "" ∧ piece ≠ "."

def components (path : Path) : List String :=
  match path.pieces with
  | "." :: rest => "." :: rest.filter isStep
  | pieces => pieces.filter isStep

/-- The path with these names, absolute if the path is. -/
def join (path : Path) (names : List String) : Path :=
  ⟨(if path.isAbsolute then "/" else "") ++ joinText '/' names⟩

/-- The path without names that stand for the place already reached. -/
def normal (path : Path) : Path :=
  path.join path.components

/-- The pieces up to the last one that leads anywhere. -/
def dropEnd (pieces : List String) : List String :=
  (pieces.reverse.dropWhile fun piece => !isStep piece).reverse

/-- The pieces up to the last name. -/
def throughName (path : Path) (pieces : List String) : List String :=
  match path.isAbsolute, pieces with
  | false, "." :: rest => "." :: dropEnd rest
  | _, pieces => dropEnd pieces

/-- The path without its last name, if it has one. What stands in front of that name
is kept as it was written, up to the name before it. -/
def parent? (path : Path) : Option Path :=
  match path.throughName (if path.isAbsolute then path.pieces.tail else path.pieces) with
  | [] => none
  | pieces => some (path.join (path.throughName pieces.dropLast))

/-- The last name, if it names an entry of its parent. -/
def fileName? (path : Path) : Option String :=
  match path.components.getLast? with
  | none | some "." | some ".." => none
  | some name => some name

/-- The path and so many of the paths above it, the path itself first. -/
def withParents : Nat → Path → List Path
  | 0, path => [path]
  | count + 1, path => path :: (path.parent?.map (withParents count)).getD []

/-- The path and everything above it, the path itself first. Each path has one name
less than the one before it. -/
def withAncestors (path : Path) : List Path :=
  path.withParents path.components.length

private example : (Path.mk "a//b/./c.dat/").parent? = some ⟨"a//b"⟩ := by
  decide +kernel

private example : (Path.mk "//a").parent? = some ⟨"/"⟩ := by
  decide +kernel

private example : (Path.mk "./a").withAncestors = [⟨"./a"⟩, ⟨"."⟩, ⟨""⟩] := by
  decide +kernel

end Path

end PackedRecords
