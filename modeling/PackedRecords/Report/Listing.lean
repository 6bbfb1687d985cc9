import PackedRecords.EntityId.Text
import PackedRecords.Record.Image
import PackedRecords.Text.Columns
import PackedRecords.Text.Json

/-! # Listings of records

The records of a file as a table or as a document.
-/

namespace PackedRecords

/-- How a report is written. -/
inductive ReportFormat where
  | text
  | json
deriving DecidableEq, Repr, Inhabited

/-- The format of a name; a name that means nothing stands for text. -/
def ReportFormat.ofName (name : String) : ReportFormat :=
  if name = "json" then json else text

namespace Listing

def row (key offset length : String) : String :=
  alignLeft 36 key ++ "  " ++ alignRight 12 offset ++ "  " ++ alignRight 8 length ++ "\n"

def recordRow (info : RecordInfo) : String :=
  row info.key.toText (toString info.offset) (toString info.length.toNat)

def toText (records : List RecordInfo) : String :=
  row "KEY" "OFFSET" "LENGTH" ++ String.join (records.map recordRow) ++ "\n" ++
    toString records.length ++ " record(s)\n"

def toJson (records : List RecordInfo) : JsonValue :=
  .list (records.map fun info => .object [
    ("key", .text info.key.toText),
    ("offset", .number info.offset),
    ("length", .number info.length.toNat)])

def render (format : ReportFormat) (records : List RecordInfo) : String :=
  match format with
  | .text => toText records
  | .json => (toJson records).toText ++ "\n"

end Listing

end PackedRecords
