/-!
Comma-separated text.  Fields are separated by commas and records ended by line feeds; a field with
a comma, a double quote or the end of a line in it stands between double quotes, with its own
quotes doubled.  A record that would be an empty line is written as one empty quoted field.
-/

namespace TableExplorer.Csv

/-- The character cannot stand in a field without quotes. -/
def needsQuotes (c : Char) : Bool := c == ',' || c == '"' || c == '\n' || c == '\r'

/-- A field between quotes, with its own quotes doubled. -/
def quote (field : List Char) : List Char :=
  '"' :: (field.flatMap fun c => if c = '"' then ['"', '"'] else [c]) ++ ['"']

/-- A field as it is written. -/
def writeField (field : List Char) : List Char :=
  if field.any needsQuotes then quote field else field

/-- Fields with commas between them. -/
def joinFields : List (List Char) → List Char
  | [] => []
  | [field] => field
  | field :: rest => field ++ ',' :: joinFields rest

/-- A record with the end of its line. -/
def writeRecord (fields : List (List Char)) : List Char :=
  let line := joinFields (fields.map writeField)
  (if line.isEmpty then quote [] else line) ++ ['\n']

/-- A text of records. -/
def write (records : List (List String)) : String :=
  String.ofList (records.flatMap fun fields => writeRecord (fields.map String.toList))

end TableExplorer.Csv
