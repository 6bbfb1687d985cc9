import PackedRecords.EntityId
import PackedRecords.Text.Hex

/-! # Identifiers as text

The written form has five groups of lower-case digits joined by hyphens. Reading
also takes upper-case digits, the digits alone, the hyphenated form in braces and
the hyphenated form after `urn:uuid:` in any case. Nothing may stand before or
after.
-/

namespace PackedRecords.EntityId

/-- The digits of each hyphenated group: 8, 4, 4, 4 and 12. -/
def groupLengths : List Nat := [8, 4, 4, 4, 12]

def joinGroups : List Nat → List Char → List Char
  | [], _ => []
  | [last], digits => digits.take last
  | length :: rest, digits =>
      digits.take length ++ '-' :: joinGroups rest (digits.drop length)

/-- Takes hyphenated groups of the given lengths apart; `none` if a hyphen is
missing or anything is left over. -/
def splitGroups? : List Nat → List Char → Option (List Char)
  | [], text => if text.isEmpty then some [] else none
  | [last], text => if text.length = last then some text else none
  | length :: rest, text => do
      guard ((text.drop length).head? = some '-')
      let digits ← splitGroups? rest (text.drop (length + 1))
      return text.take length ++ digits

def toText (id : EntityId) : String :=
  String.ofList (joinGroups groupLengths (Hex.ofList id.bytes.toList))

instance : ToString EntityId := ⟨toText⟩

/-- The identifier spelled by 32 digits. -/
def ofDigits? (digits : List Char) : Option EntityId := do
  let bytes ← Hex.toList? digits
  ofByteArray? ⟨bytes.toArray⟩

def ofGroups? (text : List Char) : Option EntityId := do
  let digits ← splitGroups? groupLengths text
  ofDigits? digits

private def urnLead : List Char := "urn:uuid:".toList

/-- Reads any of the accepted forms; they differ in length, so at most one
applies. -/
def ofText? (text : String) : Option EntityId :=
  let characters := text.toList
  match characters.length with
  | 32 => ofDigits? characters
  | 36 => ofGroups? characters
  | 38 =>
      if characters.head? = some '{' ∧ characters.getLast? = some '}' then
        ofGroups? (characters.drop 1).dropLast
      else none
  | 45 =>
      if (characters.take 9).map Char.toLower = urnLead then
        ofGroups? (characters.drop 9)
      else none
  | _ => none

def debugText (id : EntityId) : String :=
  "EntityId(" ++ id.toText ++ ")"

private example :
    ofText? "\x7b123E4567-e89b-12d3-a456-426614174000\x7d" =
      ofText? "123e4567e89b12d3a456426614174000" := by
  decide +kernel

end PackedRecords.EntityId
