import PackedRecords.Command.Arguments

/-! # The program

One run of the program: a command line, the disk it works on, what it prints and the
code it ends with.
-/

namespace PackedRecords

/-- What a run of the program leaves behind besides the disk. -/
structure RunResult where
  code : Nat
  output : String
  errors : String
deriving DecidableEq, Inhabited

namespace RunResult

/-- The result of a command: code 1 and its debug form if it has failed. -/
def ofTranscript (transcript : Transcript) : RunResult :=
  match transcript.failure? with
  | none => ⟨0, transcript.output, ""⟩
  | some failure => ⟨1, transcript.output, "Error: " ++ failure.debugText ++ "\n"⟩

end RunResult

namespace Program

def version : String := "0.3.0"

/-- The lines of the `version` command. -/
def versionText : String :=
  "roledb CLI v" ++ version ++ "\n" ++ "roledb core v" ++ version ++ "\n"

def usage : String :=
  String.join [
    "Usage: roledb [-p FILE] [-v] COMMAND\n",
    "\n",
    "Commands:\n",
    "  inspect [-f FORMAT]           totals of the record file\n",
    "  list [-f FORMAT]              its records in file order\n",
    "  get KEY [--hex]               the payload of a key\n",
    "  put KEY (VALUE | --file FILE) store a payload for a key\n",
    "  remove KEY                    remove the record of a key\n",
    "  verify                        look for faults in the record file\n",
    "  version                       version of the program\n",
    "  help                          this text\n"]

/-- The command that a task stands for. A payload to be read from a file is read. -/
def commandOf (disk : Disk) : Task → Except CommandError (Option Command)
  | .inspect format => .ok (some (.inspect format))
  | .list format => .ok (some (.list format))
  | .get key asHex => .ok (some (.get key asHex))
  | .put key (.text text) => .ok (some (.put key text.toUTF8))
  | .put key (.file path) =>
      match disk.contentsAt path with
      | .ok payload => .ok (some (.put key payload))
      | .error reason => .error (.unreadablePayload reason)
  | .remove key => .ok (some (.remove key))
  | .verify => .ok (some .verify)
  | .version => .ok none

def commandName : Task → String
  | .inspect _ => "inspect"
  | .list _ => "list"
  | .get .. => "get"
  | .put .. => "put"
  | .remove _ => "remove"
  | .verify => "verify"
  | .version => "version"

/-- Carries out a request. Only the version can be asked for without a record file. -/
def carryOut (request : Request) (disk : Disk) : Transcript × Disk :=
  match request.task, request.path? with
  | .version, _ => (⟨versionText, none⟩, disk)
  | task, none => (⟨"", some (.noPath (commandName task))⟩, disk)
  | task, some path =>
      match commandOf disk task with
      | .ok (some command) => command.perform path disk
      | .ok none => (⟨"", none⟩, disk)
      | .error failure => (⟨"", some failure⟩, disk)

/-- One run of the program. A command line that breaks the rules ends with code 2. -/
def run (arguments : List String) (disk : Disk) : RunResult × Disk :=
  match Request.ofArguments arguments with
  | .error .misuse => (⟨2, "", usage⟩, disk)
  | .error .help => (⟨0, usage, ""⟩, disk)
  | .error .version => (⟨0, "roledb " ++ version ++ "\n", ""⟩, disk)
  | .ok request =>
      let (transcript, disk) := carryOut request disk
      (.ofTranscript transcript, disk)

end Program

end PackedRecords
