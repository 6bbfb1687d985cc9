/-! # Values with named fields

The written form of a value that names its constructor and its fields, in the order
they are given.
-/

namespace PackedRecords

def fieldsText (name : String) (fields : List (String × String)) : String :=
  let written := fields.map fun (field, value) => field ++ ": " ++ value
  name ++ " \x7b " ++ String.intercalate ", " written ++ " \x7d"

private example : fieldsText "Point" [("x", "1"), ("y", "2")] =
    "Point \x7b x: 1, y: 2 \x7d" := by decide +kernel

end PackedRecords
