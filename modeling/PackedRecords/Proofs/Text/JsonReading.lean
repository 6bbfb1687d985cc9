import Mathlib.Data.List.Forall2
import Mathlib.Tactic.SplitIfs
import PackedRecords.Proofs.Text.Words
import PackedRecords.Text.Hex
import PackedRecords.Text.Json

/-! # Reading JSON documents

A reader that knows nothing of how documents are laid out. Text is cut into tokens, and
the tokens are put together by a machine that keeps the lists and objects that are still
open. Every document is read back from what is written of it.
-/

namespace PackedRecords.JsonValue

/-! ## Tokens -/

/-- A bracket, a brace, a comma or a colon; text in quotes; or a number. -/
inductive Token where
  | mark (character : Char)
  | text (value : String)
  | number (value : Nat)
deriving DecidableEq, Repr

/-- Where in a text its reader stands. Inside quotes the characters so far are kept,
latest first; `code` still owes some digits of a character's code. -/
inductive Place where
  | between
  | digits (value : Nat)
  | quoted (before : List Char)
  | escaped (before : List Char)
  | code (before : List Char) (owed value : Nat)

/-- The tokens that a character completes, and the place behind it. -/
abbrev Progress := Option (List Token × Place)

def isBlank (character : Char) : Bool :=
  character ∈ [' ', '\n', '\r', '\t']

def isMark (character : Char) : Bool :=
  character ∈ ['[', ']', '\x7b', '\x7d', ',', ':']

def digitValue (character : Char) : Nat :=
  character.toNat - '0'.toNat

/-- What a character begins where no token has begun. -/
def start (character : Char) : Progress :=
  if character.isDigit then some ([], .digits (digitValue character))
  else if isBlank character then some ([], .between)
  else if isMark character then some ([.mark character], .between)
  else if character = '"' then some ([], .quoted [])
  else none

/-- The character that a letter behind a backslash stands for. -/
def meaning? : Char → Option Char
  | '"' => some '"'
  | '\\' => some '\\'
  | '/' => some '/'
  | 'n' => some '\n'
  | 'r' => some '\r'
  | 't' => some '\t'
  | 'b' => some '\x08'
  | 'f' => some '\x0c'
  | _ => none

def advance : Place → Char → Progress
  | .between, character => start character
  | .digits value, character =>
      if character.isDigit then some ([], .digits (10 * value + digitValue character))
      else (start character).map fun (tokens, next) => (.number value :: tokens, next)
  | .quoted before, character =>
      if character = '"' then some ([.text (String.ofList before.reverse)], .between)
      else if character = '\\' then some ([], .escaped before)
      else if 32 ≤ character.toNat then some ([], .quoted (character :: before))
      else none
  | .escaped before, character =>
      if character = 'u' then some ([], .code before 4 0)
      else (meaning? character).map fun meant => ([], .quoted (meant :: before))
  | .code before owed value, character =>
      (Hex.digitValue? character).bind fun digit =>
        let value := 16 * value + digit.toNat
        if 1 < owed then some ([], .code before (owed - 1) value)
        else if value.isValidChar then some ([], .quoted (Char.ofNat value :: before))
        else none

/-- The tokens of a text that is entered at a place. -/
def tokensFrom (place : Place) : List Char → Option (List Token)
  | [] =>
      match place with
      | .between => some []
      | .digits value => some [.number value]
      | _ => none
  | character :: rest =>
      (advance place character).bind fun (tokens, next) =>
        (tokensFrom next rest).map (tokens ++ ·)

/-! ## Documents -/

/-- A list or an object that is still open, with what it has so far; of the field under
way the name has been read. -/
inductive Open where
  | list (items : List JsonValue)
  | object (fields : List (String × JsonValue)) (name : String)

/-- What the next token must be: the beginning of a value, the name of a field, the colon
behind a name, or what may follow a value. -/
inductive Stage where
  | value (opened : List Open)
  | name (fields : List (String × JsonValue)) (opened : List Open)
  | colon (fields : List (String × JsonValue)) (name : String) (opened : List Open)
  | after (value : JsonValue) (opened : List Open)

def follow : Stage → Token → Option Stage
  | .value opened, .text value => some (.after (.text value) opened)
  | .value opened, .number value => some (.after (.number value) opened)
  | .value opened, .mark '[' => some (.value (.list [] :: opened))
  | .value opened, .mark '\x7b' => some (.name [] opened)
  | .value (.list [] :: opened), .mark ']' => some (.after (.list []) opened)
  | .name [] opened, .mark '\x7d' => some (.after (.object []) opened)
  | .name fields opened, .text name => some (.colon fields name opened)
  | .colon fields name opened, .mark ':' => some (.value (.object fields name :: opened))
  | .after value (.list items :: opened), .mark ',' =>
      some (.value (.list (items ++ [value]) :: opened))
  | .after value (.list items :: opened), .mark ']' =>
      some (.after (.list (items ++ [value])) opened)
  | .after value (.object fields name :: opened), .mark ',' =>
      some (.name (fields ++ [(name, value)]) opened)
  | .after value (.object fields name :: opened), .mark '\x7d' =>
      some (.after (.object (fields ++ [(name, value)])) opened)
  | _, _ => none

/-- The document that a text is written as. -/
def ofText? (text : String) : Option JsonValue := do
  let tokens ← tokensFrom .between text.toList
  match ← tokens.foldlM follow (.value []) with
  | .after document [] => some document
  | _ => none

/-! ## The tokens of a document -/

/-- The tokens between two brackets or braces, of items that are separated by commas. -/
def blockTokens (opening closing : Char) (items : List (List Token)) : List Token :=
  .mark opening :: [Token.mark ','].intercalate items ++ [.mark closing]

mutual

def tokens : JsonValue → List Token
  | text value => [.text value]
  | number value => [.number value]
  | list items => blockTokens '[' ']' (itemTokens items)
  | object fields => blockTokens '\x7b' '\x7d' (fieldTokens fields)

def itemTokens : List JsonValue → List (List Token)
  | [] => []
  | item :: items => item.tokens :: itemTokens items

def fieldTokens : List (String × JsonValue) → List (List Token)
  | [] => []
  | (name, value) :: fields =>
      (.text name :: .mark ':' :: value.tokens) :: fieldTokens fields

end

/-! ## Reading what is written -/

/-- No digit comes next, which would go on with a number. -/
def NoDigit (characters : List Char) : Prop :=
  ∀ character ∈ characters.head?, character.isDigit = false

/-- The characters spell the tokens, whatever stands behind them. -/
def Spells (characters : List Char) (tokens : List Token) : Prop :=
  ∀ rest, NoDigit rest →
    tokensFrom .between (characters ++ rest) = (tokensFrom .between rest).map (tokens ++ ·)

section Characters

variable {place next : Place} {character : Char} {rest : List Char}

/-- A character that completes no token only moves its reader on. -/
theorem tokensFrom_silent (moved : advance place character = some ([], next)) :
    tokensFrom place (character :: rest) = tokensFrom next rest := by
  rw [tokensFrom, moved, Option.bind_some]
  exact Option.map_id'

theorem tokensFrom_emit {token : Token} (moved : advance place character = some ([token], next)) :
    tokensFrom place (character :: rest) = (tokensFrom next rest).map (token :: ·) := by
  rw [tokensFrom, moved, Option.bind_some]
  rfl

theorem tokensFrom_blank (blank : isBlank character) :
    tokensFrom .between (character :: rest) = tokensFrom .between rest := by
  apply tokensFrom_silent
  simp only [isBlank, List.mem_cons, List.not_mem_nil, or_false, decide_eq_true_eq] at blank
  rcases blank with rfl | rfl | rfl | rfl <;> rfl

theorem tokensFrom_mark (mark : isMark character) :
    tokensFrom .between (character :: rest) =
      (tokensFrom .between rest).map (.mark character :: ·) := by
  apply tokensFrom_emit
  simp only [isMark, List.mem_cons, List.not_mem_nil, or_false, decide_eq_true_eq] at mark
  rcases mark with rfl | rfl | rfl | rfl | rfl | rfl <;> rfl

end Characters

/-! ### Numbers -/

theorem tokensFrom_digits {digits : List Char} (decimal : ∀ digit ∈ digits, digit.isDigit)
    (value : Nat) (rest : List Char) :
    tokensFrom (.digits value) (digits ++ rest) =
      tokensFrom (.digits (Nat.ofDigitChars 10 digits value)) rest := by
  induction digits generalizing value with
  | nil => rfl
  | cons digit digits induction =>
      rcases List.forall_mem_cons.mp decimal with ⟨first, others⟩
      rw [Nat.ofDigitChars_cons, ← induction others]
      exact tokensFrom_silent (by rw [advance, if_pos first]; rfl)

theorem tokensFrom_number {rest : List Char} (ends : NoDigit rest) (value : Nat) :
    tokensFrom (.digits value) rest = (tokensFrom .between rest).map (.number value :: ·) := by
  cases rest with
  | nil => rfl
  | cons character rest =>
      have other : character.isDigit = false := ends character rfl
      simp only [tokensFrom, advance, other]
      cases start character <;> simp [Function.comp_def]

theorem spells_number (value : Nat) : Spells (toString value).toList [.number value] := by
  intro rest ends
  have decimal : ∀ digit ∈ (toString value).toList, digit.isDigit :=
    fun _ => isDigit_of_mem_toString
  have same := ofDigitChars_toString value
  cases spelled : (toString value).toList with
  | nil => exact absurd (String.toList_eq_nil_iff.mp spelled) Nat.repr_ne_empty
  | cons first others =>
      rw [spelled] at decimal same
      rcases List.forall_mem_cons.mp decimal with ⟨firstDigit, otherDigits⟩
      have begun : advance .between first = some ([], .digits (digitValue first)) := by
        rw [advance, start, if_pos firstDigit]
      rw [Nat.ofDigitChars_cons, Nat.mul_zero, Nat.zero_add] at same
      rw [List.cons_append, tokensFrom_silent begun, tokensFrom_digits otherDigits, digitValue,
        same, tokensFrom_number ends]
      rfl

/-! ### Text in quotes -/

theorem tokensFrom_letter {letter meant : Char} (named : meaning? letter = some meant)
    (before rest : List Char) :
    tokensFrom (.quoted before) ('\\' :: letter :: rest) =
      tokensFrom (.quoted (meant :: before)) rest := by
  have noCode : letter ≠ 'u' := by
    rintro rfl
    cases named
  have escaped : advance (.quoted before) '\\' = some ([], .escaped before) := rfl
  rw [tokensFrom_silent escaped]
  exact tokensFrom_silent (by rw [advance, if_neg noCode, named]; rfl)

section Code

variable {digit : Nat} (small : digit < 16) (before : List Char) (value : Nat)
include small

theorem digitValue?_digitChar :
    Hex.digitValue? (Nat.digitChar digit) = some (UInt8.ofNat digit) ∧
      (UInt8.ofNat digit).toNat = digit := by
  revert digit
  decide

theorem advance_code {owed : Nat} (more : 1 < owed) :
    advance (.code before owed value) (Nat.digitChar digit) =
      some ([], .code before (owed - 1) (16 * value + digit)) := by
  rcases digitValue?_digitChar small with ⟨read, same⟩
  rw [advance, read, Option.bind_some, same]
  exact if_pos more

theorem advance_lastDigit (valid : (16 * value + digit).isValidChar) :
    advance (.code before 1 value) (Nat.digitChar digit) =
      some ([], .quoted (Char.ofNat (16 * value + digit) :: before)) := by
  rcases digitValue?_digitChar small with ⟨read, same⟩
  rw [advance, read, Option.bind_some, same]
  exact if_pos valid

end Code

theorem tokensFrom_escapedCode {character : Char} (control : character.toNat < 32)
    (before rest : List Char) :
    tokensFrom (.quoted before) (escapedCode character ++ rest) =
      tokensFrom (.quoted (character :: before)) rest := by
  have high : character.toNat / 16 < 16 := by omega
  have low : character.toNat % 16 < 16 := Nat.mod_lt _ (by decide)
  have code : 16 * (character.toNat / 16) + character.toNat % 16 = character.toNat := by omega
  have valid : (16 * (character.toNat / 16) + character.toNat % 16).isValidChar :=
    code.symm ▸ character.valid
  have escaped : advance (.quoted before) '\\' = some ([], .escaped before) := rfl
  have opened : advance (.escaped before) 'u' = some ([], .code before 4 0) := rfl
  have first : advance (.code before 4 0) '0' = some ([], .code before 3 0) := rfl
  have second : advance (.code before 3 0) '0' = some ([], .code before 2 0) := rfl
  have third := advance_code high before 0 (by decide : 1 < 2)
  have fourth := advance_lastDigit low before _ valid
  rw [Nat.mul_zero, Nat.zero_add] at third
  rw [code, Char.ofNat_toNat] at fourth
  exact (tokensFrom_silent escaped).trans <| (tokensFrom_silent opened).trans <|
    (tokensFrom_silent first).trans <| (tokensFrom_silent second).trans <|
    (tokensFrom_silent third).trans (tokensFrom_silent fourth)

theorem tokensFrom_escape (before : List Char) (character : Char) (rest : List Char) :
    tokensFrom (.quoted before) (escapeCharacter character ++ rest) =
      tokensFrom (.quoted (character :: before)) rest := by
  rw [escapeCharacter]
  split_ifs with special printed feed carriage tab back form
  · rcases special with rfl | rfl <;> exact tokensFrom_letter rfl before rest
  · rcases not_or.mp special with ⟨noQuote, noBackslash⟩
    exact tokensFrom_silent (by rw [advance, if_neg noQuote, if_neg noBackslash, if_pos printed])
  · subst feed
    exact tokensFrom_letter rfl before rest
  · subst carriage
    exact tokensFrom_letter rfl before rest
  · subst tab
    exact tokensFrom_letter rfl before rest
  · subst back
    exact tokensFrom_letter rfl before rest
  · subst form
    exact tokensFrom_letter rfl before rest
  · exact tokensFrom_escapedCode (Nat.lt_of_not_le printed) before rest

theorem tokensFrom_quoted (before text rest : List Char) :
    tokensFrom (.quoted before) (text.flatMap escapeCharacter ++ '"' :: rest) =
      (tokensFrom .between rest).map (.text (String.ofList (before.reverse ++ text)) :: ·) := by
  induction text generalizing before with
  | nil =>
      rw [List.append_nil]
      exact tokensFrom_emit rfl
  | cons character text induction =>
      rw [List.flatMap_cons, List.append_assoc, tokensFrom_escape, induction,
        List.reverse_cons, List.append_assoc, List.singleton_append]

theorem tokensFrom_quote (text : String) (rest : List Char) :
    tokensFrom .between ((quote text).toList ++ rest) =
      (tokensFrom .between rest).map (.text text :: ·) := by
  have opened : advance .between '"' = some ([], .quoted []) := rfl
  rw [quote, String.toList_ofList, List.append_assoc, List.cons_append,
    tokensFrom_silent opened, List.singleton_append, tokensFrom_quoted]
  simp

/-! ### Lists and objects -/

namespace Spells

theorem nil : Spells [] [] := by
  intro rest _
  exact Option.map_id'.symm

variable {characters : List Char} {tokens : List Token} (spells : Spells characters tokens)
include spells

theorem blank {character : Char} (blank : isBlank character) :
    Spells (character :: characters) tokens := by
  intro rest ends
  rw [List.cons_append, tokensFrom_blank blank, spells rest ends]

theorem mark {character : Char} (mark : isMark character) :
    Spells (character :: characters) (.mark character :: tokens) := by
  intro rest ends
  rw [List.cons_append, tokensFrom_mark mark, spells rest ends, Option.map_map]
  rfl

theorem quote (text : String) :
    Spells ((JsonValue.quote text).toList ++ characters) (.text text :: tokens) := by
  intro rest ends
  rw [List.append_assoc, tokensFrom_quote, spells rest ends, Option.map_map]
  rfl

theorem indentation (level : Nat) :
    Spells ((JsonValue.indentation level).toList ++ characters) tokens := by
  rw [JsonValue.indentation, toList_pushn, String.toList_empty, List.nil_append]
  induction 2 * level with
  | zero => exact spells
  | succ count induction =>
      rw [List.replicate_succ, List.cons_append]
      exact induction.blank rfl

/-- What follows a number must not go on with it. -/
theorem append {character : Char} {more : List Char} {others : List Token}
    (later : Spells (character :: more) others) (ends : character.isDigit = false) :
    Spells (characters ++ character :: more) (tokens ++ others) := by
  intro rest restEnds
  have stops : NoDigit (character :: more ++ rest) := by
    rintro _ ⟨⟩
    exact ends
  rw [List.append_assoc, spells _ stops, later rest restEnds, Option.map_map]
  congr 1
  funext after
  simp

end Spells

/-- Each item's text spells its tokens. -/
abbrev SpellEach : List String → List (List Token) → Prop :=
  List.Forall₂ fun item tokens => Spells item.toList tokens

/-- Items on lines of their own, with commas between them. -/
theorem spells_lines (level : Nat) {item : String} {items : List String} {first : List Token}
    {others : List (List Token)} (each : SpellEach (item :: items) (first :: others)) :
    Spells ([',', '\n'].intercalate
        ((item :: items).map fun item => (indentation level).toList ++ item.toList))
      ([Token.mark ','].intercalate (first :: others)) := by
  induction items generalizing item first others with
  | nil =>
      cases each with
      | cons spells none =>
          cases none
          rw [List.map_cons, List.map_nil, List.intercalate_singleton,
            List.intercalate_singleton]
          exact spells.indentation level
  | cons next items induction =>
      cases each with
      | cons spells later =>
          cases others with
          | nil => cases later
          | cons second others =>
              have comma : isMark ',' = true := rfl
              have feed : isBlank '\n' = true := rfl
              have line := ((induction later).blank feed).mark comma
              rw [List.map_cons, List.map_cons, List.intercalate_cons_cons,
                List.intercalate_cons_cons, List.append_assoc (_ ++ _), List.append_assoc first]
              exact (spells.indentation level).append line rfl

/-- The text of a block spells its brackets and the items between them. -/
theorem spells_block (level : Nat) {opening closing : Char} (opens : isMark opening)
    (closes : isMark closing) {first last : String} (before : first.toList = [opening])
    (behind : last.toList = [closing]) {items : List String} {spelled : List (List Token)}
    (each : SpellEach items spelled) :
    Spells (block level first last items).toList (blockTokens opening closing spelled) := by
  have ending : Spells [closing] [.mark closing] := Spells.nil.mark closes
  cases each with
  | nil =>
      have text : (block level first last []).toList = [opening, closing] := by
        simp [block, before, behind]
      rw [text]
      exact ending.mark opens
  | @cons item _ items _ spells later =>
      have text : (block level first last (item :: items)).toList =
          opening :: '\n' :: ([',', '\n'].intercalate ((item :: items).map fun item =>
            (indentation (level + 1)).toList ++ item.toList) ++
              '\n' :: ((indentation level).toList ++ [closing])) := by
        simp only [block, List.isEmpty_cons, Bool.false_eq_true, if_false, String.toList_append,
          String.toList_intercalate, List.map_map, Function.comp_def, before, behind,
          List.append_assoc, List.singleton_append]
        rfl
      rw [text]
      have lines := spells_lines (level + 1) (.cons spells later)
      exact ((lines.append ((ending.indentation level).blank rfl) rfl).blank rfl).mark opens

mutual

/-- What is written of a document spells its tokens. -/
theorem spells_written (level : Nat) : (document : JsonValue) →
    Spells (document.written level).toList document.tokens
  | text value => by
      have spells := Spells.nil.quote value
      rwa [List.append_nil] at spells
  | number value => spells_number value
  | list items => by
      rw [written, tokens]
      exact spells_block level rfl rfl rfl rfl (spells_items (level + 1) items)
  | object fields => by
      rw [written, tokens]
      exact spells_block level rfl rfl rfl rfl (spells_fields (level + 1) fields)

theorem spells_items (level : Nat) : (items : List JsonValue) →
    SpellEach (writtenItems level items) (itemTokens items)
  | [] => .nil
  | item :: items => .cons (spells_written level item) (spells_items level items)

theorem spells_fields (level : Nat) : (fields : List (String × JsonValue)) →
    SpellEach (writtenFields level fields) (fieldTokens fields)
  | [] => .nil
  | (name, value) :: fields => by
      have colon : isMark ':' = true := rfl
      have gap : isBlank ' ' = true := rfl
      have field := (((spells_written level value).blank gap).mark colon).quote name
      refine .cons ?_ (spells_fields level fields)
      simpa using field

end

/-! ## Putting tokens together -/

/-- The machine goes from a stage through the tokens to another stage. -/
def Leads (before : Stage) (tokens : List Token) (after : Stage) : Prop :=
  tokens.foldlM follow before = some after

theorem Leads.single {before after : Stage} {token : Token}
    (step : follow before token = some after) : Leads before [token] after := by
  rw [Leads, List.foldlM_cons, step]
  rfl

theorem Leads.append {before middle after : Stage} {first second : List Token}
    (left : Leads before first middle) (right : Leads middle second after) :
    Leads before (first ++ second) after := by
  rw [Leads, List.foldlM_append, left]
  exact right

theorem Leads.cons {before middle after : Stage} {token : Token} {tokens : List Token}
    (step : follow before token = some middle) (later : Leads middle tokens after) :
    Leads before (token :: tokens) after :=
  (Leads.single step).append later

section Block

variable {α : Type} {ready : List α → Stage} {read : List α → α → Stage} {closed : List α → Stage}
  {closing : Char}
  (comma : ∀ before item, follow (read before item) (.mark ',') = some (ready (before ++ [item])))
  (close : ∀ before item,
    follow (read before item) (.mark closing) = some (closed (before ++ [item])))
include comma close

/-- Behind each item a comma leads to the next one, and behind the last one the machine
closes the block with all of them. -/
theorem leads_items {item : α} {items : List α} {first : List Token} {others : List (List Token)}
    (each : List.Forall₂ (fun item tokens => ∀ before, Leads (ready before) tokens
      (read before item)) (item :: items) (first :: others)) (before : List α) :
    Leads (ready before) ([Token.mark ','].intercalate (first :: others) ++ [.mark closing])
      (closed (before ++ item :: items)) := by
  induction items generalizing item first others before with
  | nil =>
      cases each with
      | cons leads none =>
          cases none
          rw [List.intercalate_singleton]
          exact (leads before).append (.single (close before item))
  | cons next items induction =>
      cases each with
      | cons leads later =>
          cases others with
          | nil => cases later
          | cons second others =>
              have rest := induction later (before ++ [item])
              rw [List.append_assoc, List.singleton_append] at rest
              rw [List.intercalate_cons_cons, List.append_assoc, List.append_assoc]
              exact (leads before).append (.cons (comma before item) rest)

variable (ready read closed) in
/-- A block that is opened is read to its end. -/
theorem leads_block (empty : follow (ready []) (.mark closing) = some (closed []))
    {opening : Char} {before : Stage} (opens : follow before (.mark opening) = some (ready []))
    {items : List α} {spelled : List (List Token)}
    (each : List.Forall₂ (fun item tokens => ∀ before, Leads (ready before) tokens
      (read before item)) items spelled) :
    Leads before (blockTokens opening closing spelled) (closed items) := by
  cases each with
  | nil => exact .cons opens (.single empty)
  | cons leads later => exact .cons opens (leads_items comma close (.cons leads later) [])

end Block

mutual

/-- The tokens of a value lead behind it, whatever is open around it. -/
theorem leads_tokens : (document : JsonValue) → (opened : List Open) →
    Leads (.value opened) document.tokens (.after document opened)
  | text value, _ => .single rfl
  | number value, _ => .single rfl
  | list items, opened => by
      rw [tokens]
      exact leads_block (fun before => .value (.list before :: opened))
        (fun before item => .after item (.list before :: opened))
        (fun items => .after (.list items) opened) (fun _ _ => rfl) (fun _ _ => rfl) rfl rfl
        ((leads_itemTokens items).imp fun _ _ leads before => leads (.list before :: opened))
  | object fields, opened => by
      rw [tokens]
      exact leads_block (fun before => .name before opened)
        (fun before field => .after field.2 (.object before field.1 :: opened))
        (fun fields => .after (.object fields) opened) (fun _ _ => rfl) (fun _ _ => rfl) rfl rfl
        ((leads_fieldTokens fields).imp fun _ _ leads before => leads before opened)

theorem leads_itemTokens : (items : List JsonValue) →
    List.Forall₂ (fun item tokens => ∀ opened, Leads (.value opened) tokens (.after item opened))
      items (itemTokens items)
  | [] => .nil
  | item :: items => .cons (leads_tokens item) (leads_itemTokens items)

theorem leads_fieldTokens : (fields : List (String × JsonValue)) →
    List.Forall₂ (fun field tokens => ∀ before opened, Leads (.name before opened) tokens
      (.after field.2 (.object before field.1 :: opened))) fields (fieldTokens fields)
  | [] => .nil
  | (name, value) :: fields => by
      refine .cons (fun before opened => ?_) (leads_fieldTokens fields)
      have named : follow (.name before opened) (.text name) =
          some (.colon before name opened) := by
        cases before <;> rfl
      exact .cons named (.cons rfl (leads_tokens value (.object before name :: opened)))

end

/-! ## Reading documents back -/

/-- A document is read back from the line that it is printed as. -/
theorem ofText?_toText (document : JsonValue) :
    ofText? (document.toText ++ "\n") = some document := by
  have feed : NoDigit ['\n'] := by
    rintro _ ⟨⟩
    rfl
  have spelled := spells_written 0 document ['\n'] feed
  have leads : document.tokens.foldlM follow (.value []) = some (.after document []) :=
    leads_tokens document []
  have tokens : tokensFrom .between (document.toText ++ "\n").toList = some document.tokens := by
    rw [String.toList_append]
    refine spelled.trans ?_
    rw [tokensFrom_blank rfl]
    exact congrArg some (List.append_nil _)
  rw [ofText?, tokens]
  simp only [Option.bind_eq_bind, Option.bind_some, leads]

end PackedRecords.JsonValue
