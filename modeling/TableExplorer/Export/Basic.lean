import TableExplorer.Amount.Reading
import TableExplorer.Amount.Writing
import TableExplorer.Dataset.Relation
import TableExplorer.Export.Csv

/-!
Exporting the rows of a view for other programs.

* `ExportCell.ofValue`: a value that reads as an amount of the euro pattern is exported as a number
  with two decimals, and everything else as it is shown.
* `exportText` is the whole text: a header of the column names, and a record for each row;
  `writeCsv` also counts the rows.
* `exportFileName` is the name of the file if none is given.
-/

namespace TableExplorer

/-- A value as it is exported. -/
inductive ExportCell where
  | empty
  | number (value : Binary64)
  | text (content : String)
  deriving DecidableEq, Inhabited

namespace ExportCell

/-- Prepares a value for export. -/
def ofValue (v : Value) : ExportCell :=
  if v.isNull then .empty
  else
    match Amount.readEuro? v.display with
    | some x => .number x
    | none => .text v.display

/-- The text of a field. -/
def render : ExportCell → String
  | .empty => ""
  | .number x => Amount.writeExport x
  | .text content => content

end ExportCell

/-- The field of a row under a column; a row without the column has an empty field. -/
def Row.exportField (row : Row) (column : String) : String :=
  match row.get? column with
  | some v => (ExportCell.ofValue v).render
  | none => ExportCell.empty.render

/-- The header and the records of some rows. -/
def exportRecords (columns : List String) (rows : List Row) : List (List String) :=
  columns :: rows.map fun row => columns.map row.exportField

/-- The rows as a text. -/
def exportText (columns : List String) (rows : List Row) : String :=
  Csv.write (exportRecords columns rows)

/-- Writes the rows under their columns; the answer is the number of rows, and the text. -/
def writeCsv (columns : List Column) (rows : List Row) : Nat × String :=
  (rows.length, exportText (columnNames columns) rows)

/-- The character may stand in the name of a file. -/
def isSafeInFileName (c : Char) : Bool := c.isAlphanum || c == '_' || c == '-' || c == '.'

/-- The characters of a table's name that may stand in the name of a file, spaces as underscores. -/
def safeName (table : String) : List Char :=
  ((Text.trim table).toList.map fun c => if c = ' ' then '_' else c).filter isSafeInFileName

/-- The name of the file to which a table is exported. -/
def exportFileName (table : String) : String :=
  let safe := safeName table
  "_" ++ (if safe.isEmpty then "export" else String.ofList safe) ++ "_export.csv"

end TableExplorer
