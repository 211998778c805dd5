import TableExplorer.Sorting
import TableExplorer.View.Detection

/-!
The order of the records of a table.

* `SortOrder` is what is asked for: a column and a direction, or the order in which the records are
  read.
* `SortKey` is what records are compared by: the column itself, by its collation, or the number that
  it denotes when the column holds amounts.
* `OrderClause.ofSort` finds the key; `OrderClause.text` is the clause of a statement, and
  `OrderClause.arrange` puts records in order.  Records with equal keys stay in the order in which
  they are read, in both directions.
-/

namespace TableExplorer

/-- The direction of an order. -/
inductive Direction where
  | ascending
  | descending
  deriving DecidableEq, Repr, Inhabited

namespace Direction

/-- The direction that descends if so asked. -/
def ofDescending (descending : Bool) : Direction := if descending then .descending else .ascending

/-- The name of the direction in answers. -/
def name : Direction → String
  | .ascending => "asc"
  | .descending => "desc"

/-- The direction in statements. -/
def keyword : Direction → String
  | .ascending => "ASC"
  | .descending => "DESC"

/-- A comparison in this direction. -/
def compareBy {α : Type} (cmp : α → α → Ordering) : Direction → α → α → Ordering
  | .ascending, a, b => cmp a b
  | .descending, a, b => cmp b a

end Direction

/-- The order asked for; without a column, that in which the records are read. -/
structure SortOrder where
  column? : Option String := none
  direction : Direction := .ascending
  deriving DecidableEq, Repr, Inhabited

/-- The order by a column; a blank name is no column. -/
def SortOrder.by (column : String) (direction : Direction) : SortOrder :=
  ⟨if (Text.trim column).isEmpty then none else some column, direction⟩

/-- What records are compared by. -/
structure SortKey where
  column : Identifier
  style : AmountStyle

namespace SortKey

/-- The key of a column with this number style. -/
def ofColumn (column : String) (style : AmountStyle) : Result SortKey := do
  return ⟨← Identifier.ofName column, style⟩

/-- The key as it stands in a statement. -/
def text (key : SortKey) : String :=
  match key.style.tag? with
  | some tag => "locale_number(" ++ key.column.quoted ++ ", '" ++ tag ++ "')"
  | none => key.column.quoted

/-- The key of a cell: the number that it denotes if the column holds amounts, and else what it is
compared by. -/
def ofCell (style : AmountStyle) (collation : Collation) (cell : Cell) : Cell :=
  if style.isNumeric then cell.amountCell style else collation.key cell

/-- The key of a record. -/
def cell (key : SortKey) (rel : Relation) (record : Record) : Cell :=
  ofCell key.style (rel.collation key.column.name) (rel.cell key.column.name record)

end SortKey

/-- The order of a statement: a key and a direction, or the order in which the records are read. -/
structure OrderClause where
  key? : Option SortKey := none
  direction : Direction := .ascending

instance : Inhabited OrderClause := ⟨{}⟩

namespace OrderClause

/-- The order asked for, the column's number style being found among the records of a search. -/
def ofSort (detector : StyleDetector) (contents : Contents) (table : String) (sort : SortOrder)
    (search : Search) : Result OrderClause :=
  match sort.column? with
  | none => .ok {}
  | some column => do
    let style := detector.detect contents table column search
    return ⟨some (← SortKey.ofColumn column style), sort.direction⟩

/-- The number style of the key; an order without a key has that of texts. -/
def style (clause : OrderClause) : AmountStyle :=
  match clause.key? with
  | some key => key.style
  | none => .text

/-- The clause as it stands in a statement. -/
def text (clause : OrderClause) : String :=
  match clause.key? with
  | some key => "ORDER BY " ++ key.text ++ " " ++ clause.direction.keyword
  | none => ""

/-- Puts records of a relation in order. -/
def arrange (clause : OrderClause) (rel : Relation) (records : List Record) : List Record :=
  match clause.key? with
  | some key =>
    let keyed := records.map fun record => (key.cell rel record, record)
    (sortBy (fun a b => clause.direction.compareBy Cell.compare a.1 b.1) keyed).map (·.2)
  | none => records

end OrderClause

end TableExplorer
