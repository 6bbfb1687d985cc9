/-! # Hexadecimal text

Bytes are shown as two lower-case digits each; reading takes digits of either
case.
-/

namespace PackedRecords.Hex

def digit (value : UInt8) : Char :=
  if value < 10 then Char.ofUInt8 (48 + value) else Char.ofUInt8 (87 + value)

def digitValue? (character : Char) : Option UInt8 :=
  let code := character.toNat
  if 48 ≤ code ∧ code ≤ 57 then some (UInt8.ofNat (code - 48))
  else if 97 ≤ code ∧ code ≤ 102 then some (UInt8.ofNat (code - 87))
  else if 65 ≤ code ∧ code ≤ 70 then some (UInt8.ofNat (code - 55))
  else none

/-- The two digits of a byte, high half first. -/
def ofByte (byte : UInt8) : List Char :=
  [digit (byte >>> 4), digit (byte &&& 15)]

def ofList (bytes : List UInt8) : List Char :=
  bytes.flatMap ofByte

/-- Digits for all bytes in order, as text. -/
def ofBytes (bytes : ByteArray) : String :=
  bytes.foldl (fun text byte => (ofByte byte).foldl String.push text) ""

/-- Reads pairs of digits; an odd count or another character is refused. -/
def toList? : List Char → Option (List UInt8)
  | [] => some []
  | high :: low :: rest => do
      let highValue ← digitValue? high
      let lowValue ← digitValue? low
      let bytes ← toList? rest
      return (highValue <<< 4 ||| lowValue) :: bytes
  | [_] => none

private example : toList? "00fFa7".toList = some [0, 255, 167] := by decide

end PackedRecords.Hex
