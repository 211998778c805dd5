import TableExplorer.Dataset.Cell
import TableExplorer.Numeral.Shortest

/-!
Values as they are read.  A `Value` is what a reader gets for a stored cell: blobs are read as text,
and so are bytes that are no text.  A `Row` is a sequence of named values.

* `Value.display` is the text shown for a value; reals are shown in their shortest digits.
* `Value.isBlank`: there is nothing to see; `Value.nonBlankText?` is what there is to see.
-/

namespace TableExplorer

/-- A cell as it is read. -/
inductive Value where
  | null
  | integer (value : Int64)
  | real (value : Binary64)
  | text (value : String)
  deriving DecidableEq

instance : Inhabited Value := ⟨.null⟩

/-- Reads a cell. -/
def Cell.read : Cell → Value
  | .null => .null
  | .integer i => .integer i
  | .real x => .real x
  | .text bytes => .text (Text.Utf8.decode bytes)
  | .blob bytes => .text (Text.Utf8.decode bytes)

namespace Value

/-- There is no value. -/
def isNull : Value → Bool
  | .null => true
  | _ => false

/-- The text shown for the value. -/
def display : Value → String
  | .null => ""
  | .integer i => toString i.toInt
  | .real x => x.toText
  | .text s => s

/-- There is no value, or a text of blanks. -/
def isBlank : Value → Bool
  | .null => true
  | .text s => (Text.trim s).isEmpty
  | _ => false

/-- The text shown, without the blanks around it, unless it is blank. -/
def nonBlankText? (v : Value) : Option String :=
  if v.isBlank then none else some (Text.trim v.display)

end Value

/-- Named values, in the order of the columns. -/
structure Row where
  cells : List (String × Value)
  deriving DecidableEq, Inhabited

/-- The first value under a name. -/
def Row.get? (row : Row) (column : String) : Option Value :=
  (row.cells.find? fun cell => cell.1 == column).map (·.2)

end TableExplorer
