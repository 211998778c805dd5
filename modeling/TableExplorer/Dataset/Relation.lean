import TableExplorer.Dataset.Collation
import TableExplorer.Dataset.Value

/-!
Relations: what statements read from.  A `Relation` has columns and numbered records.  A quoted
name in a statement over it is read as a `Reference`: as the column of that name, whatever the case
of ASCII letters; failing that, as the number of the record if it is one of the names for it; and
failing that as a text.

The records of a relation are in the order in which statements read them.  For a table this is the
order of their numbers, which is that of insertion unless a column gives the numbers.  Indexes are
left out: if the store reads one in place of the table, the records are those of the index in its
order, and no relation stands for a table that two statements read in different orders.
-/

namespace TableExplorer

/-- A column with its declared type, which may be empty. -/
structure Column where
  name : String
  declaredType : String
  deriving DecidableEq, Repr, Inhabited

/-- The affinity of a column. -/
def Column.affinity (c : Column) : Affinity := .ofType c.declaredType

/-- The names of columns, in order. -/
def columnNames (columns : List Column) : List String := columns.map (·.name)

/-- A stored record: its number, and a cell for each column. -/
structure Record where
  number : Int
  cells : List Cell
  deriving Inhabited

/-- Columns, and records in the order in which statements read them. -/
structure Relation where
  columns : List Column
  records : List Record
  /-- Statements can ask for the number of a record. -/
  numbered : Bool
  /-- How the columns compare texts; columns for which nothing is said compare their bytes. -/
  collations : List Collation := []
  /-- Why the records cannot be read although the columns are there. -/
  failure? : Option String := none
  deriving Inhabited

/-- What a quoted name stands for in a statement. -/
inductive Reference where
  | column (index : Nat)
  | recordNumber
  | literal (text : String)
  deriving DecidableEq, Repr

/-- The names for the number of a record. -/
def isNumberName (name : String) : Bool :=
  sameName name "rowid" || sameName name "oid" || sameName name "_rowid_"

namespace Relation

/-- The place of the first column with this name. -/
def columnIndex? (rel : Relation) (name : String) : Option Nat :=
  rel.columns.findIdx? fun c => sameName c.name name

/-- What a quoted name stands for. -/
def reference (rel : Relation) (name : String) : Reference :=
  match rel.columnIndex? name with
  | some index => .column index
  | none => if rel.numbered && isNumberName name then .recordNumber else .literal name

/-- The collation of what a name stands for. -/
def collationOf (rel : Relation) : Reference → Collation
  | .column index => rel.collations.getD index .binary
  | _ => .binary

/-- The collation of a name. -/
def collation (rel : Relation) (name : String) : Collation := rel.collationOf (rel.reference name)

end Relation

/-- The cell that a quoted name has in a record. -/
def Reference.cell (record : Record) : Reference → Cell
  | .column index => record.cells.getD index .null
  | .recordNumber => .integer (.ofInt record.number)
  | .literal text => .ofString text

/-- The cell of a name in a record of a relation. -/
def Relation.cell (rel : Relation) (name : String) (record : Record) : Cell :=
  (rel.reference name).cell record

end TableExplorer
