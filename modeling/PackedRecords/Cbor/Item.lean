import PackedRecords.Cbor.Head
import PackedRecords.Text.Utf8

/-! # Reading items

Readers take input from the front and return what follows the item, or `none` where
the input is no such item. Tags may stand in front of an item that is read and say
nothing. Inside an item that is skipped they count as collections of one item.
-/

namespace PackedRecords.Cbor

/-- The head at the front of the input once tags have been passed over. -/
def readUntagged? (input : List UInt8) : Option (Head × List UInt8) :=
  match _taken : readHead? input with
  | some (.tag _, rest) => readUntagged? rest
  | other => other
termination_by input.length
decreasing_by exact length_of_readHead? _taken

theorem length_of_readUntagged? {input rest : List UInt8} {head : Head}
    (read : readUntagged? input = some (head, rest)) : rest.length < input.length := by
  fun_induction readUntagged? input with
  | case1 input number after taken induction =>
      exact Nat.lt_trans (induction read) (length_of_readHead? taken)
  | case2 input untagged => exact length_of_readHead? read

/-! ## Strings -/

/-- The two kinds of string. -/
inductive StringKind where
  | bytes
  | text
deriving DecidableEq, Repr

def StringKind.length? : StringKind → Head → Option (Option Nat)
  | .bytes, .bytes length => some length
  | .text, .text length => some length
  | _, _ => none

def StringKind.allows : StringKind → List UInt8 → Bool
  | .bytes, _ => true
  | .text, piece => (utf8Text? ⟨piece.toArray⟩).isSome

/-- The next `count` bytes as a piece of a string. -/
def readPiece? (kind : StringKind) (count : Nat) (input : List UInt8) :
    Option (List UInt8 × List UInt8) :=
  (takeBytes? count input).filter fun taken => kind.allows taken.1

theorem length_of_readPiece? {kind : StringKind} {count : Nat}
    {input piece rest : List UInt8}
    (read : readPiece? kind count input = some (piece, rest)) :
    rest.length ≤ input.length := by
  rw [readPiece?, Option.filter_eq_some_iff] at read
  exact length_of_takeBytes? read.1

/-- The pieces of a string of open length, up to the stop that ends the outermost of
`depth` open strings; `before` are the pieces already read, last first. -/
def readPieces? (kind : StringKind) (depth : Nat) (before : List (List UInt8))
    (input : List UInt8) : Option (List UInt8 × List UInt8) :=
  match taken : readHead? input with
  | none => none
  | some (.stop, rest) =>
      if depth ≤ 1 then some (before.reverse.flatten, rest)
      else readPieces? kind (depth - 1) before rest
  | some (head, rest) =>
      match kind.length? head with
      | none => none
      | some none => readPieces? kind (depth + 1) before rest
      | some (some count) =>
          match _cut : readPiece? kind count rest with
          | none => none
          | some (piece, rest) => readPieces? kind depth (piece :: before) rest
termination_by input.length
decreasing_by
  all_goals have first := length_of_readHead? taken
  · exact first
  · exact first
  · exact Nat.lt_of_le_of_lt (length_of_readPiece? _cut) first

def readString? (kind : StringKind) (length : Option Nat) (input : List UInt8) :
    Option (List UInt8 × List UInt8) :=
  match length with
  | some count => readPiece? kind count input
  | none => readPieces? kind 1 [] input

def readText? (input : List UInt8) : Option (String × List UInt8) := do
  let (head, rest) ← readUntagged? input
  let length ← StringKind.text.length? head
  let (bytes, rest) ← readString? .text length rest
  return (← utf8Text? ⟨bytes.toArray⟩, rest)

theorem length_of_readPieces? {kind : StringKind} {depth : Nat}
    {before : List (List UInt8)} {input bytes rest : List UInt8}
    (read : readPieces? kind depth before input = some (bytes, rest)) :
    rest.length ≤ input.length := by
  fun_induction readPieces? kind depth before input with
  | case1 => cases read
  | case2 _ _ _ _ taken =>
      cases read
      exact Nat.le_of_lt (length_of_readHead? taken)
  | case3 _ _ _ _ taken _ induction =>
      exact Nat.le_trans (induction read) (Nat.le_of_lt (length_of_readHead? taken))
  | case4 => cases read
  | case5 _ _ _ _ _ _ taken _ induction =>
      exact Nat.le_trans (induction read) (Nat.le_of_lt (length_of_readHead? taken))
  | case6 => cases read
  | case7 _ _ _ _ _ _ taken _ _ _ _ cut induction =>
      exact Nat.le_trans (induction read) (Nat.le_trans (length_of_readPiece? cut)
        (Nat.le_of_lt (length_of_readHead? taken)))

theorem length_of_readString? {kind : StringKind} {length : Option Nat}
    {input bytes rest : List UInt8}
    (read : readString? kind length input = some (bytes, rest)) :
    rest.length ≤ input.length := by
  cases length with
  | none => exact length_of_readPieces? read
  | some count => exact length_of_readPiece? read

theorem length_of_readText? {input rest : List UInt8} {text : String}
    (read : readText? input = some (text, rest)) : rest.length < input.length := by
  simp only [readText?, Option.bind_eq_bind, Option.bind_eq_some_iff] at read
  obtain ⟨⟨_, _⟩, head, _, _, ⟨_, _⟩, string, _, _, equal⟩ := read
  cases equal
  exact Nat.lt_of_le_of_lt (length_of_readString? string) (length_of_readUntagged? head)

/-! ## Collections -/

/-- Whether a collection goes on: `some none` says that it has ended. -/
inductive Progress where
  | ended (rest : List UInt8)
  | more (left : Option Nat)
deriving DecidableEq, Repr

/-- Looks for the next element of a collection with `left` elements to come, or with
an open number of them. -/
def progress (left : Option Nat) (input : List UInt8) : Progress :=
  match left, input with
  | some 0, input => .ended input
  | some (left + 1), _ => .more (some left)
  | none, 0xFF :: rest => .ended rest
  | none, _ => .more none

theorem length_of_progress {left : Option Nat} {input rest : List UInt8}
    (ended : progress left input = .ended rest) : rest.length ≤ input.length := by
  simp only [progress] at ended
  split at ended <;> cases ended <;> simp

/-- The text items of a collection; `before` are those already read, last first. -/
def readElements? (left : Option Nat) (before : List String) (input : List UInt8) :
    Option (List String × List UInt8) :=
  match progress left input with
  | .ended rest => some (before.reverse, rest)
  | .more left =>
      match _read : readText? input with
      | none => none
      | some (text, rest) => readElements? left (text :: before) rest
termination_by input.length
decreasing_by exact length_of_readText? _read

/-- An array of text items. A byte string without bytes stands for the empty array. -/
def readTexts? (input : List UInt8) : Option (List String × List UInt8) :=
  match readUntagged? input with
  | some (.array length, rest) => readElements? length [] rest
  | some (.bytes length, rest) =>
      match readString? .bytes length rest with
      | some ([], rest) => some ([], rest)
      | _ => none
  | _ => none

theorem length_of_readElements? {left : Option Nat} {before texts : List String}
    {input rest : List UInt8}
    (read : readElements? left before input = some (texts, rest)) :
    rest.length ≤ input.length := by
  fun_induction readElements? left before input with
  | case1 _ _ _ _ ended =>
      cases read
      exact length_of_progress ended
  | case2 => cases read
  | case3 _ _ _ _ _ _ _ text induction =>
      exact Nat.le_trans (induction read) (Nat.le_of_lt (length_of_readText? text))

theorem length_of_readTexts? {input rest : List UInt8} {texts : List String}
    (read : readTexts? input = some (texts, rest)) : rest.length ≤ input.length := by
  rw [readTexts?] at read
  split at read
  · next head =>
      exact Nat.le_trans (length_of_readElements? read)
        (Nat.le_of_lt (length_of_readUntagged? head))
  · next head =>
      split at read
      · next string =>
          cases read
          exact Nat.le_trans (length_of_readString? string)
            (Nat.le_of_lt (length_of_readUntagged? head))
      · cases read
  · cases read

def keyLimit : Nat := 4096

/-- A key of a map: a string of known length, of either kind. -/
def readKey? (input : List UInt8) : Option (List UInt8 × List UInt8) :=
  match readUntagged? input with
  | some (.bytes (some length), rest) =>
      if length ≤ keyLimit then readPiece? .bytes length rest else none
  | some (.text (some length), rest) =>
      if length ≤ keyLimit then readPiece? .text length rest else none
  | _ => none

theorem length_of_readKey? {input key rest : List UInt8}
    (read : readKey? input = some (key, rest)) : rest.length < input.length := by
  rw [readKey?] at read
  split at read
  · next head =>
      split at read
      · exact Nat.lt_of_le_of_lt (length_of_readPiece? read) (length_of_readUntagged? head)
      · cases read
  · next head =>
      split at read
      · exact Nat.lt_of_le_of_lt (length_of_readPiece? read) (length_of_readUntagged? head)
      · cases read
  · cases read

/-! ## Items of no interest -/

/-- An item under way: how many items it still needs, or that a stop ends it, and for
a map whether the next item is a value. -/
inductive Frame where
  | items (left : Nat)
  | untilStop
  | pairsUntilStop (value : Bool)
deriving DecidableEq, Repr

namespace Frame

def stoppable : Frame → Bool
  | items _ => false
  | untilStop => true
  | pairsUntilStop value => !value

def advance : Frame → Frame
  | items left => items (left - 1)
  | untilStop => untilStop
  | pairsUntilStop value => pairsUntilStop !value

/-- The frame of an item made of items, whose head this is. -/
def ofHead? : Head → Option Frame
  | .tag _ => some (items 1)
  | .array (some length) => some (items length)
  | .array none => some untilStop
  | .map (some length) => some (items (2 * length))
  | .map none => some (pairsUntilStop false)
  | _ => none

end Frame

/-- Items may be nested this deep. -/
def nestingLimit : Nat := 256

def numberLimit : Nat := 16

/-- The number after the head of a tag: tag 2 marks a byte string as a number, tag 3
as a negative one. Byte strings that are too long or of open length are none. -/
def readNumber? (head : Head) (input : List UInt8) : Option (Nat × List UInt8) :=
  match readHead? input with
  | some (.bytes (some length), rest) =>
      if (head = .tag 2 ∨ head = .tag 3) ∧ length ≤ numberLimit then some (length, rest)
      else none
  | _ => none

/-- The input after the bytes of a number. A negative number must fit into 128 bits
with its sign. -/
def skipNumber? (head : Head) (length : Nat) (input : List UInt8) :
    Option (List UInt8) :=
  match takeBytes? length input with
  | some (bytes, rest) =>
      if head = .tag 3 ∧ 1 <<< 127 ≤ bigEndian bytes then none else some rest
  | none => none

/-- The input after an item that has no items in it, whose head has been read. -/
def skipSimple? (head : Head) (input : List UInt8) : Option (List UInt8) :=
  match head with
  | .unsigned _ | .negative _ | .float _ => some input
  | .bytes length => (readString? .bytes length input).map (·.2)
  | .text length => (readString? .text length input).map (·.2)
  | .simple value => if 20 ≤ value ∧ value ≤ 23 then some input else none
  | .array _ | .map _ | .tag _ | .stop => none

/-- How an item begins: its first part is the whole of it, or items of it follow. -/
inductive Beginning where
  | whole (rest : List UInt8)
  | items (frame : Frame) (rest : List UInt8)
deriving DecidableEq, Repr

def Beginning.rest : Beginning → List UInt8
  | whole rest | items _ rest => rest

def begin? (input : List UInt8) : Option Beginning :=
  match readHead? input with
  | none => none
  | some (head, rest) =>
      match readNumber? head rest with
      | some (length, rest) => (skipNumber? head length rest).map .whole
      | none =>
          match Frame.ofHead? head with
          | some frame => some (.items frame rest)
          | none => (skipSimple? head rest).map .whole

theorem length_of_readNumber? {head : Head} {length : Nat} {input rest : List UInt8}
    (read : readNumber? head input = some (length, rest)) :
    rest.length ≤ input.length := by
  rw [readNumber?] at read
  split at read
  · next next =>
      split at read
      · cases read
        exact Nat.le_of_lt (length_of_readHead? next)
      · cases read
  · cases read

theorem length_of_skipNumber? {head : Head} {length : Nat} {input rest : List UInt8}
    (skipped : skipNumber? head length input = some rest) :
    rest.length ≤ input.length := by
  rw [skipNumber?] at skipped
  split at skipped
  · next taken =>
      split at skipped
      · cases skipped
      · cases skipped
        exact length_of_takeBytes? taken
  · cases skipped

theorem length_of_skipSimple? {head : Head} {input rest : List UInt8}
    (skipped : skipSimple? head input = some rest) : rest.length ≤ input.length := by
  cases head with
  | bytes length =>
      obtain ⟨⟨_, after⟩, read, equal⟩ := Option.map_eq_some_iff.mp skipped
      cases equal
      exact length_of_readString? read
  | text length =>
      obtain ⟨⟨_, after⟩, read, equal⟩ := Option.map_eq_some_iff.mp skipped
      cases equal
      exact length_of_readString? read
  | simple value =>
      simp only [skipSimple?] at skipped
      split at skipped
      · cases skipped
        exact Nat.le_refl _
      · cases skipped
  | unsigned | negative | float =>
      cases skipped
      exact Nat.le_refl _
  | array | map | tag | stop => cases skipped

/-- The beginning of an item uses up at least one byte. -/
theorem length_of_begin? {input : List UInt8} {beginning : Beginning}
    (begun : begin? input = some beginning) :
    beginning.rest.length < input.length := by
  rw [begin?] at begun
  split at begun
  · cases begun
  · next head =>
      have first := length_of_readHead? head
      split at begun
      · next number =>
          obtain ⟨_, skipped, equal⟩ := Option.map_eq_some_iff.mp begun
          cases equal
          exact Nat.lt_of_le_of_lt (Nat.le_trans (length_of_skipNumber? skipped)
            (length_of_readNumber? number)) first
      · split at begun
        · cases begun
          exact first
        · obtain ⟨_, skipped, equal⟩ := Option.map_eq_some_iff.mp begun
          cases equal
          exact Nat.lt_of_le_of_lt (length_of_skipSimple? skipped) first

/-- The input after everything the frames still need. The lowest frame stands for the
collection the skipped item is in. -/
def skipFrames? (frames : List Frame) (input : List UInt8) : Option (List UInt8) :=
  match frames, input with
  | [], input => some input
  | .items 0 :: outer, input => skipFrames? outer input
  | frame :: outer, 0xFF :: rest =>
      if frame.stoppable then skipFrames? outer rest else none
  | frame :: outer, input =>
      match _begun : begin? input with
      | none => none
      | some (.whole rest) => skipFrames? (frame.advance :: outer) rest
      | some (.items inner rest) =>
          if outer.length + 1 < nestingLimit then
            skipFrames? (inner :: frame.advance :: outer) rest
          else none
termination_by (input.length, frames.length)
decreasing_by
  · exact Prod.Lex.right _ (by simp)
  · exact Prod.Lex.left _ _ (by simp)
  · exact Prod.Lex.left _ _ (length_of_begin? _begun)
  · exact Prod.Lex.left _ _ (length_of_begin? _begun)

/-- The input after one item of any kind in an outermost collection. -/
def skipItem? (input : List UInt8) : Option (List UInt8) :=
  skipFrames? [.items 1] input

theorem length_of_skipFrames? {frames : List Frame} {input rest : List UInt8}
    (skipped : skipFrames? frames input = some rest) : rest.length ≤ input.length := by
  fun_induction skipFrames? frames input with
  | case1 =>
      cases skipped
      exact Nat.le_refl _
  | case2 _ _ induction => exact induction skipped
  | case3 _ _ _ _ _ induction =>
      exact Nat.le_trans (induction skipped) (Nat.le_succ _)
  | case4 => cases skipped
  | case5 => cases skipped
  | case6 _ _ _ _ _ _ begun induction =>
      exact Nat.le_trans (induction skipped) (Nat.le_of_lt (length_of_begin? begun))
  | case7 _ _ _ _ _ _ _ begun _ induction =>
      exact Nat.le_trans (induction skipped) (Nat.le_of_lt (length_of_begin? begun))
  | case8 => cases skipped

theorem length_of_skipItem? {input rest : List UInt8}
    (skipped : skipItem? input = some rest) : rest.length ≤ input.length :=
  length_of_skipFrames? skipped

end PackedRecords.Cbor
