import PackedRecords.Command.Basic

/-! # Command lines

Arguments are read in two passes of the same kind: first the options in front of the
command's name, then the options and words behind it. An option is a word in itself
(`--hex`), carries its value (`--path=F`, `-pF`, `-p=F`) or is followed by it
(`--path F`, `-p F`). Single letters can share one argument (`-vp F`). No option is
accepted twice within a pass. After `--` every argument is a word.

Arguments are judged in their order, so a fault counts only if it stands in front of
a request for help or for the version. An option that is followed by its value is
judged with the next argument of the same pass.
-/

namespace PackedRecords

/-- What a word or the value of an option stands for. -/
inductive ArgumentForm where
  | text
  | path
  | key
deriving DecidableEq, Repr, Inhabited

/-- Whether a text has the form: a path must not be empty, and a key must be one. -/
def ArgumentForm.accepts : ArgumentForm → String → Bool
  | text, _ => true
  | path, value => value ≠ ""
  | key, value => (EntityId.ofText? value).isSome

/-- An option: its name, its letter if it has one, and the form of its value if it
takes one. -/
structure CommandOption where
  name : String
  letter? : Option Char
  value? : Option ArgumentForm
deriving DecidableEq, Inhabited

namespace CommandOption

def path : CommandOption := ⟨"path", some 'p', some .path⟩

def verbose : CommandOption := ⟨"verbose", some 'v', none⟩

def help : CommandOption := ⟨"help", some 'h', none⟩

def version : CommandOption := ⟨"version", some 'V', none⟩

def format : CommandOption := ⟨"format", some 'f', some .text⟩

def hex : CommandOption := ⟨"hex", none, none⟩

def file : CommandOption := ⟨"file", none, some .path⟩

def everywhere : List CommandOption := [path, verbose, help]

/-- Whether a text can be the value of the option; without a value it is empty. -/
def accepts (option : CommandOption) (value : String) : Bool :=
  match option.value? with
  | none => true
  | some form => form.accepts value

end CommandOption

/-- What may stand in one pass: options, words in their order, and the names of
commands, the first of which ends the pass. -/
structure ArgumentGrammar where
  options : List CommandOption
  words : List ArgumentForm
  commands : List String
deriving DecidableEq, Inhabited

/-- Why a command line names no command to run. -/
inductive NoRequest where
  /-- It breaks the rules. -/
  | misuse
  /-- It asks for help. -/
  | help
  /-- It asks for the program's version. -/
  | version
deriving DecidableEq, Repr, Inhabited

/-! ## One pass over arguments -/

/-- What has been read so far: options with their values, an option without value
having an empty one, and words. A pending option is followed by its value; it is
judged with the argument behind that value. -/
structure ArgumentPass where
  given : List (String × String) := []
  words : List String := []
  pending : Option (CommandOption × Option String) := none
deriving DecidableEq, Inhabited

namespace ArgumentPass

def value? (pass : ArgumentPass) (option : CommandOption) : Option String :=
  pass.given.lookup option.name

def has (pass : ArgumentPass) (option : CommandOption) : Bool :=
  (pass.value? option).isSome

/-- Notes an option, which must not have been given before. Asking for help or for
the version ends the reading at once. -/
def give (option : CommandOption) (value : String) (pass : ArgumentPass) :
    Except NoRequest ArgumentPass :=
  if option = .help then .error .help
  else if option = .version then .error .version
  else if pass.has option || !option.accepts value then .error .misuse
  else .ok { pass with given := pass.given ++ [(option.name, value)] }

def await (option : CommandOption) (pass : ArgumentPass) : ArgumentPass :=
  { pass with pending := some (option, none) }

/-- Notes the pending option, which must have got its value. -/
def settle (pass : ArgumentPass) : Except NoRequest ArgumentPass :=
  match pass.pending with
  | none => .ok pass
  | some (_, none) => .error .misuse
  | some (option, some value) => give option value { pass with pending := none }

/-- Notes a word, which must have the form of the word at its place. -/
def addWord (forms : List ArgumentForm) (pass : ArgumentPass) (word : String) :
    Except NoRequest ArgumentPass :=
  match forms[pass.words.length]? with
  | none => .error .misuse
  | some form =>
      if form.accepts word then .ok { pass with words := pass.words ++ [word] }
      else .error .misuse

/-- Reads an argument of single letters. The last of them may be left waiting for its
value in the next argument. -/
def giveLetters (options : List CommandOption) (pass : ArgumentPass) :
    List Char → Except NoRequest ArgumentPass
  | [] => .ok pass
  | letter :: rest =>
      match options.find? fun option => option.letter? = some letter with
      | none => .error .misuse
      | some option =>
          if option.value?.isNone then do
            giveLetters options (← pass.give option "") rest
          else
            match rest with
            | [] => .ok (pass.await option)
            | '=' :: value | value => pass.give option (String.ofList value)

/-- Reads an argument that is an option's name, perhaps with a value behind `=`. -/
def giveName (options : List CommandOption) (pass : ArgumentPass) (text : List Char) :
    Except NoRequest ArgumentPass :=
  let name := text.takeWhile (· ≠ '=')
  match options.find? fun option => option.name = String.ofList name with
  | none => .error .misuse
  | some option =>
      match text.drop name.length, option.value? with
      | [], some _ => .ok (pass.await option)
      | [], none => pass.give option ""
      | _ :: value, some _ => pass.give option (String.ofList value)
      | _ :: _, none => .error .misuse

end ArgumentPass

/-- What an argument is by its first characters. -/
inductive ArgumentKind where
  | word
  | letters (text : List Char)
  | name (text : List Char)
  | endOfOptions
deriving DecidableEq

/-- The kind of an argument; a single hyphen is a word. -/
def ArgumentKind.ofText (text : String) : ArgumentKind :=
  match text.toList with
  | ['-', '-'] => endOfOptions
  | '-' :: '-' :: rest => name rest
  | ['-'] => word
  | '-' :: rest => letters rest
  | _ => word

namespace ArgumentPass

/-- Reads arguments up to the first word that names a command, and returns that name
and the arguments behind it. An option that waits for its value takes the next
argument, which must not look like an option. -/
def read (grammar : ArgumentGrammar) (pass : ArgumentPass) :
    List String → Except NoRequest (ArgumentPass × Option (String × List String))
  | [] => do return (← pass.settle, none)
  | argument :: rest =>
      match pass.pending, ArgumentKind.ofText argument with
      | some (option, none), .word =>
          read grammar { pass with pending := some (option, some argument) } rest
      | some (_, none), _ => .error .misuse
      | _, .word =>
          if grammar.commands.contains argument then .ok (pass, some (argument, rest))
          else do
            read grammar (← (← pass.settle).addWord grammar.words argument) rest
      | _, .endOfOptions => do
          return (← rest.foldlM (addWord grammar.words) (← pass.settle), none)
      | _, .name text => do
          read grammar (← (← pass.settle).giveName grammar.options text) rest
      | _, .letters text => do
          read grammar (← (← pass.settle).giveLetters grammar.options text) rest

end ArgumentPass

/-! ## Requests -/

/-- Where the payload to store comes from. -/
inductive PayloadSource where
  | text (text : String)
  | file (path : Path)
deriving DecidableEq, Inhabited

/-- What a command line asks for. -/
inductive Task where
  | inspect (format : ReportFormat)
  | list (format : ReportFormat)
  | get (key : EntityId) (asHex : Bool)
  | put (key : EntityId) (source : PayloadSource)
  | remove (key : EntityId)
  | verify
  | version
deriving DecidableEq, Inhabited

namespace Task

/-- The path given for an option, if there is one. -/
def pathOf? (option : CommandOption) (pass : ArgumentPass) : Option Path :=
  (pass.value? option).map Path.mk

def readKey (text : String) : Except NoRequest EntityId :=
  match EntityId.ofText? text with
  | some key => .ok key
  | none => .error .misuse

/-- The payload named by at most one word or by a file, but not by both. -/
def readSource (words : List String) (file? : Option Path) :
    Except NoRequest PayloadSource :=
  match words, file? with
  | [text], none => .ok (.text text)
  | [], some file => .ok (.file file)
  | _, _ => .error .misuse

def ofPass (command : String) (pass : ArgumentPass) : Except NoRequest Task := do
  let format := ReportFormat.ofName ((pass.value? .format).getD "text")
  match command, pass.words with
  | "inspect", [] => return .inspect format
  | "list", [] => return .list format
  | "get", [key] => return .get (← readKey key) (pass.has .hex)
  | "put", key :: words =>
      return .put (← readKey key) (← readSource words (pathOf? .file pass))
  | "remove", [key] => return .remove (← readKey key)
  | "verify", [] => return .verify
  | "version", [] => return .version
  | _, _ => throw .misuse

end Task

/-- A task and the record file it is for. -/
structure Request where
  path? : Option Path
  verbose : Bool
  task : Task
deriving DecidableEq, Inhabited

namespace Request

def commands : List String :=
  ["inspect", "list", "get", "put", "remove", "verify", "version", "help"]

/-- What may stand in front of a command's name: options only. -/
def outerGrammar : ArgumentGrammar :=
  ⟨CommandOption.version :: CommandOption.everywhere, [], commands⟩

def innerGrammar (command : String) : ArgumentGrammar :=
  let (options, words) : List CommandOption × List ArgumentForm :=
    match command with
    | "inspect" | "list" => ([.format], [])
    | "get" => ([.hex], [.key])
    | "put" => ([.file], [.key, .text])
    | "remove" => ([], [.key])
    | _ => ([], [])
  ⟨options ++ CommandOption.everywhere, words, []⟩

/-- What the command `help` asks for: it takes the name of one command at most. -/
def ofHelp : List String → NoRequest
  | [] => .help
  | [command] => if commands.contains command then .help else .misuse
  | _ => .misuse

/-- The request of a command line. A path behind the command's name counts before one
in front of it. The option right in front of that name is judged last. -/
def ofArguments (arguments : List String) : Except NoRequest Request := do
  match ← ArgumentPass.read outerGrammar {} arguments with
  | (_, none) => throw .misuse
  | (_, some ("help", rest)) => throw (ofHelp rest)
  | (outer, some (command, rest)) =>
      let (inner, _) ← ArgumentPass.read (innerGrammar command) {} rest
      let task ← Task.ofPass command inner
      let outer ← outer.settle
      return {
        path? := Task.pathOf? .path inner <|> Task.pathOf? .path outer
        verbose := outer.has .verbose || inner.has .verbose
        task }

end Request

end PackedRecords
