/-! # JSON documents

Documents of text, numbers, lists and objects whose fields keep their order, written
over several lines with two spaces for each level.
-/

namespace PackedRecords

/-- A document. -/
inductive JsonValue where
  | text (value : String)
  | number (value : Nat)
  | list (items : List JsonValue)
  | object (fields : List (String × JsonValue))

namespace JsonValue

/-- A control character without a letter of its own, as four hexadecimal digits. -/
def escapedCode (character : Char) : List Char :=
  let code := character.toNat
  ['\\', 'u', '0', '0', Nat.digitChar (code / 16), Nat.digitChar (code % 16)]

/-- A character as it stands inside quotes. Only quotes, backslashes and the control
characters below the space need another form. -/
def escapeCharacter (character : Char) : List Char :=
  if character = '"' ∨ character = '\\' then ['\\', character]
  else if 32 ≤ character.toNat then [character]
  else if character = '\n' then ['\\', 'n']
  else if character = '\r' then ['\\', 'r']
  else if character = '\t' then ['\\', 't']
  else if character = '\x08' then ['\\', 'b']
  else if character = '\x0c' then ['\\', 'f']
  else escapedCode character

def quote (text : String) : String :=
  String.ofList ('"' :: text.toList.flatMap escapeCharacter ++ ['"'])

def indentation (level : Nat) : String :=
  "".pushn ' ' (2 * level)

/-- Items on lines of their own between brackets; without items the brackets stand
next to each other. -/
def block (level : Nat) (opening closing : String) (items : List String) : String :=
  if items.isEmpty then opening ++ closing
  else
    let lines := items.map (indentation (level + 1) ++ ·)
    opening ++ "\n" ++ String.intercalate ",\n" lines ++ "\n" ++ indentation level ++
      closing

mutual

def written (level : Nat) : JsonValue → String
  | text value => quote value
  | number value => toString value
  | list items => block level "[" "]" (writtenItems (level + 1) items)
  | object fields => block level "\x7b" "\x7d" (writtenFields (level + 1) fields)

def writtenItems (level : Nat) : List JsonValue → List String
  | [] => []
  | item :: items => written level item :: writtenItems level items

def writtenFields (level : Nat) : List (String × JsonValue) → List String
  | [] => []
  | (name, value) :: fields =>
      (quote name ++ ": " ++ written level value) :: writtenFields level fields

end

def toText (document : JsonValue) : String :=
  document.written 0

private example : (list [object [("a", text "x\ty"), ("b", number 1)], list []]).toText =
    "[\n  \x7b\n    \"a\": \"x\\ty\",\n    \"b\": 1\n  \x7d,\n  []\n]" := by
  decide +kernel

end JsonValue

end PackedRecords
