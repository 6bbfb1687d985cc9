import PackedRecords.Disk.Path
import PackedRecords.Report.Listing
import PackedRecords.Report.SizeText

/-! # Summary of a record file

How many records a file holds and how its bytes are spent.
-/

namespace PackedRecords

/-- The totals of a record file. Only a file with records has a largest payload. -/
structure Summary where
  path : Path
  fileSize : Nat
  recordCount : Nat
  payloadBytes : Nat
  headerBytes : Nat
  largest? : Option Nat
deriving DecidableEq, Inhabited

namespace Summary

def ofRecords (path : Path) (fileSize : Nat) (records : List RecordInfo) : Summary :=
  let lengths := records.map fun info => info.length.toNat
  { path, fileSize
    recordCount := records.length
    payloadBytes := lengths.foldl (· + ·) 0
    headerBytes := records.length * headerSize
    largest? := lengths.max? }

/-- The last line of a summary, if the file has records. -/
def largestLine (summary : Summary) : String :=
  match summary.largest? with
  | none => ""
  | some largest => "Largest:       " ++ sizeText largest ++ "\n"

def toText (summary : Summary) : String :=
  String.join [
    "roledb Record File\n",
    "==================\n",
    "\n",
    "Path:          ", summary.path.text, "\n",
    "File size:     ", sizeText summary.fileSize, "\n",
    "Records:       ", toString summary.recordCount, "\n",
    "Payload bytes: ", sizeText summary.payloadBytes, "\n",
    "Header bytes:  ", sizeText summary.headerBytes, "\n",
    summary.largestLine]

/-- The summary as an object; a largest payload is left out if there is none. -/
def toJson (summary : Summary) : JsonValue :=
  let largest := match summary.largest? with
    | none => []
    | some largest => [("largest_payload", .number largest)]
  .object ([
    ("path", .text summary.path.text),
    ("file_size", .number summary.fileSize),
    ("record_count", .number summary.recordCount),
    ("payload_bytes", .number summary.payloadBytes),
    ("header_bytes", .number summary.headerBytes)] ++ largest)

def render (format : ReportFormat) (summary : Summary) : String :=
  match format with
  | .text => summary.toText
  | .json => summary.toJson.toText ++ "\n"

end Summary

end PackedRecords
