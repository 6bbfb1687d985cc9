/-! # Reading UTF-8

`utf8Text?` accepts exactly the encodings of texts. `lossyText` reads any bytes: where
they are no encoding, each longest stretch that could still have become a character,
or else a single byte, is read as the replacement character.
-/

namespace PackedRecords

/-- The text that bytes encode, if they encode one. -/
def utf8Text? (bytes : ByteArray) : Option String :=
  String.fromUTF8? bytes

namespace Utf8

/-- A character of which some bytes are still owed; the next one must lie between
`low` and `high`. -/
structure Partial where
  owed : Nat
  low : UInt8
  high : UInt8
  value : Nat
deriving DecidableEq, Repr

/-- What a first byte starts, if it starts anything but a character of its own. The
bounds rule out overlong forms, surrogates and codes past the last character. -/
def start? (byte : UInt8) : Option Partial :=
  let value (mask : UInt8) := (byte &&& mask).toNat
  if 0xC2 ≤ byte ∧ byte ≤ 0xDF then some ⟨1, 0x80, 0xBF, value 0x1F⟩
  else if byte = 0xE0 then some ⟨2, 0xA0, 0xBF, value 0x0F⟩
  else if byte = 0xED then some ⟨2, 0x80, 0x9F, value 0x0F⟩
  else if 0xE1 ≤ byte ∧ byte ≤ 0xEF then some ⟨2, 0x80, 0xBF, value 0x0F⟩
  else if byte = 0xF0 then some ⟨3, 0x90, 0xBF, value 0x07⟩
  else if 0xF1 ≤ byte ∧ byte ≤ 0xF3 then some ⟨3, 0x80, 0xBF, value 0x07⟩
  else if byte = 0xF4 then some ⟨3, 0x80, 0x8F, value 0x07⟩
  else none

/-- Text read so far and the character under way. -/
structure Reading where
  text : String := ""
  pending : Option Partial := none

/-- Stands for bytes that are no encoding. -/
def replacement : Char := '\uFFFD'

def first (text : String) (byte : UInt8) : Reading :=
  if byte < 0x80 then ⟨text.push (Char.ofNat byte.toNat), none⟩
  else
    match start? byte with
    | none => ⟨text.push replacement, none⟩
    | some pending => ⟨text, some pending⟩

def step (reading : Reading) (byte : UInt8) : Reading :=
  match reading with
  | ⟨text, none⟩ => first text byte
  | ⟨text, some ⟨owed, low, high, value⟩⟩ =>
      if low ≤ byte ∧ byte ≤ high then
        let value := value * 64 + (byte &&& 0x3F).toNat
        if owed ≤ 1 then ⟨text.push (Char.ofNat value), none⟩
        else ⟨text, some ⟨owed - 1, 0x80, 0xBF, value⟩⟩
      else first (text.push replacement) byte

def Reading.finish (reading : Reading) : String :=
  match reading.pending with
  | none => reading.text
  | some _ => reading.text.push replacement

end Utf8

/-- The text of any bytes, with replacements where they encode none. -/
def lossyText (bytes : ByteArray) : String :=
  (bytes.foldl Utf8.step {}).finish

end PackedRecords
