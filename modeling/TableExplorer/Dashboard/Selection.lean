import TableExplorer.Binary64.CompensatedSum
import TableExplorer.Grouping
import TableExplorer.View.Order

/-!
The records that a summary of a table is made of.

* `Selection` are the records that a search finds, with the way to their amounts.
* `groupRecords` groups them.  A statement that groups by a name takes a real column of that name
  before the value computed under it; `groupingCell` is that rule.
* `shownText` refuses texts that an answer cannot show.
-/

namespace TableExplorer

/-- The order of numbers from the largest down; what cannot be compared counts as equal. -/
def Binary64.compareDescending (a b : Binary64) : Ordering := (b.compare? a).getD .eq

/-- The records of a table that are found, and the key of their amounts, if there are amounts. -/
structure Selection where
  table : Identifier
  relation : Relation
  records : List Record
  amountKey? : Option SortKey

namespace Selection

/-- The amount of a record. -/
def amount? (s : Selection) (record : Record) : Option Binary64 := do
  let key ← s.amountKey?
  (s.relation.cell key.column.name record).amount? key.style

/-- The sum of the amounts of records. -/
def sum? (s : Selection) (records : List Record) : Option Binary64 :=
  Binary64.compensatedSum (records.filterMap s.amount?)

/-- The text of a column in a record, without the spaces around it. -/
def trimmed? (s : Selection) (column : Identifier) (record : Record) : Option ByteArray :=
  (s.relation.cell column.name record).trimmedText?

end Selection

/-- A text that an answer shows; it must be well-formed. -/
def shownText (bytes : ByteArray) : Result String :=
  match Text.Utf8.decode? bytes with
  | some s => .ok s
  | none => .error (.query "invalid utf-8 sequence")

/-- A computed text as a cell. -/
def textCell : Option ByteArray → Cell
  | some bytes => .text bytes
  | none => .null

/-- What the cell of a column in a record is compared by. -/
def Relation.columnKey (rel : Relation) (index : Nat) (record : Record) : Cell :=
  (rel.collationOf (.column index)).key ((Reference.column index).cell record)

/-- The cell by which a record is grouped under a name: what the column of this name, if there is
one, is compared by, and else the computed cell. -/
def groupingCell (rel : Relation) (name : String) (computed : Record → Cell) (record : Record) :
    Cell :=
  match rel.columnIndex? name with
  | some index => rel.columnKey index record
  | none => computed record

/-- The groups of records under a name, each with its first record. -/
def groupRecords (rel : Relation) (name : String) (computed : Record → Cell)
    (records : List Record) : List (Record × List Record) :=
  let keyed := records.map fun record => (groupingCell rel name computed record, record)
  (groupBy Cell.compare (·.1) keyed).map fun (first, group) => (first.2, group.map (·.2))

end TableExplorer
