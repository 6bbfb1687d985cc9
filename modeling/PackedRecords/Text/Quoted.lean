import PackedRecords.Text.Unprinted

/-! # Quoted text

Text between double quotes, with a backslash in front of quotes and backslashes, the
usual letters for tab, line feed, carriage return and NUL, and the hexadecimal code
in braces for every other character that has no glyph of its own.
-/

namespace PackedRecords

/-- The digits of a code, without leading zeros. -/
def codeDigits (character : Char) : List Char :=
  Nat.toDigits 16 character.toNat

def quoteCharacter (character : Char) : List Char :=
  if character = '"' ∨ character = '\\' then ['\\', character]
  else if character = '\t' then ['\\', 't']
  else if character = '\n' then ['\\', 'n']
  else if character = '\r' then ['\\', 'r']
  else if character.toNat = 0 then ['\\', '0']
  else if character.toNat < 32 ∨ character.toNat = 127 ∨ isUnprinted character then
    ['\\', 'u', '\x7b'] ++ codeDigits character ++ ['\x7d']
  else [character]

def quoted (text : String) : String :=
  String.ofList ('"' :: text.toList.flatMap quoteCharacter ++ ['"'])

end PackedRecords
