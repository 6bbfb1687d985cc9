/-! # Heads of encoded items

Every item of the encoding starts with a head: three bits of kind and an argument,
which stands in the low five bits or in the one, two, four or eight bytes that follow.
Strings and collections may leave their length open; a stop then ends them. Reading
takes an argument of any width, writing uses the narrowest.
-/

namespace PackedRecords.Cbor

/-- The start of an item. An open length is `none`. -/
inductive Head where
  | unsigned (value : Nat)
  | negative (value : Nat)
  | bytes (length : Option Nat)
  | text (length : Option Nat)
  | array (length : Option Nat)
  | map (length : Option Nat)
  | tag (number : Nat)
  | simple (value : Nat)
  | float (width : Nat)
  | stop
deriving DecidableEq, Repr

/-- The number spelled by bytes, most significant first. -/
def bigEndian (bytes : List UInt8) : Nat :=
  bytes.foldl (fun value byte => value * 256 + byte.toNat) 0

/-- The first `count` bytes and the rest, if there are that many. -/
def takeBytes? (count : Nat) (input : List UInt8) : Option (List UInt8 × List UInt8) :=
  let taken := input.take count
  if taken.length = count then some (taken, input.drop count) else none

/-- How many bytes of argument follow a head with these low bits; `none` for the low
bits that mean something else. -/
def argumentWidth? (low : Nat) : Option Nat :=
  match low with
  | 24 => some 1
  | 25 => some 2
  | 26 => some 4
  | 27 => some 8
  | low => if low < 24 then some 0 else none

/-- The argument of a head with these low bits and what follows it. -/
def readArgument? (low : Nat) (input : List UInt8) : Option (Nat × List UInt8) := do
  let width ← argumentWidth? low
  let (bytes, rest) ← takeBytes? width input
  return (if width = 0 then low else bigEndian bytes, rest)

/-- The head with these three bits of kind, if it has an argument. -/
def withArgument (kind low argument : Nat) : Head :=
  match kind with
  | 0 => .unsigned argument
  | 1 => .negative argument
  | 2 => .bytes (some argument)
  | 3 => .text (some argument)
  | 4 => .array (some argument)
  | 5 => .map (some argument)
  | 6 => .tag argument
  | _ => if low ≤ 24 then .simple argument else .float (1 <<< (low - 24))

def withoutArgument? (kind : Nat) : Option Head :=
  match kind with
  | 2 => some (.bytes none)
  | 3 => some (.text none)
  | 4 => some (.array none)
  | 5 => some (.map none)
  | 7 => some .stop
  | _ => none

def readHead? : List UInt8 → Option (Head × List UInt8)
  | [] => none
  | first :: rest => do
      let kind := first.toNat / 32
      let low := first.toNat % 32
      if low = 31 then
        return (← withoutArgument? kind, rest)
      let (argument, rest) ← readArgument? low rest
      return (withArgument kind low argument, rest)

/-- The bytes of a number, most significant first. -/
def toBigEndian (width value : Nat) : List UInt8 :=
  (List.range width).map fun position =>
    UInt8.ofNat (value >>> (8 * (width - 1 - position)))

/-- A head of some kind whose argument takes as few bytes as it can. -/
def encodeHead (kind argument : Nat) : List UInt8 :=
  let lead (low : Nat) := UInt8.ofNat (kind * 32 + low)
  if argument < 24 then [lead argument]
  else if argument < 0x100 then lead 24 :: toBigEndian 1 argument
  else if argument < 0x10000 then lead 25 :: toBigEndian 2 argument
  else if argument < 0x100000000 then lead 26 :: toBigEndian 4 argument
  else lead 27 :: toBigEndian 8 argument

def encodeTextHead (length : Nat) : List UInt8 := encodeHead 3 length

def encodeArrayHead (length : Nat) : List UInt8 := encodeHead 4 length

def encodeMapHead (length : Nat) : List UInt8 := encodeHead 5 length

def encodeText (text : String) : List UInt8 :=
  let bytes := text.toUTF8
  encodeTextHead bytes.size ++ bytes.data.toList

private example : readHead? (encodeTextHead 300) = some (.text (some 300), []) := by
  decide

theorem length_of_takeBytes? {count : Nat} {input taken rest : List UInt8}
    (read : takeBytes? count input = some (taken, rest)) :
    rest.length ≤ input.length := by
  simp only [takeBytes?] at read
  split at read
  · cases read
    simp
  · cases read

theorem length_of_readArgument? {low argument : Nat} {input rest : List UInt8}
    (read : readArgument? low input = some (argument, rest)) :
    rest.length ≤ input.length := by
  simp only [readArgument?, Option.bind_eq_bind, Option.bind_eq_some_iff] at read
  obtain ⟨width, _, ⟨bytes, after⟩, taken, equal⟩ := read
  cases equal
  exact length_of_takeBytes? taken

/-- Reading a head uses up at least one byte. -/
theorem length_of_readHead? {input rest : List UInt8} {head : Head}
    (read : readHead? input = some (head, rest)) : rest.length < input.length := by
  cases input with
  | nil => simp [readHead?] at read
  | cons first after =>
      simp only [readHead?] at read
      split at read
      · simp only [Option.pure_def, Option.bind_eq_bind, Option.bind_eq_some_iff] at read
        obtain ⟨_, _, equal⟩ := read
        cases equal
        simp
      · simp only [Option.pure_def, Option.bind_eq_bind, Option.bind_eq_some_iff] at read
        obtain ⟨⟨_, remaining⟩, argument, equal⟩ := read
        cases equal
        have := length_of_readArgument? argument
        simp only [List.length_cons]
        omega

end PackedRecords.Cbor
