import TableExplorer.Catalogue
import TableExplorer.View.Order
import TableExplorer.View.Window

/-!
Views of one table: searched, put in order, and cut into pages.

* `TableRequest` is what is asked for.
* `loadPage` answers with one page, `loadAll` with all rows that are found.
* `prepare` is what both do first, and where both fail in the same way.
-/

namespace TableExplorer

/-- What is asked for of a table. -/
structure TableRequest where
  table : String
  query : String := ""
  sort : SortOrder := {}
  /-- The page, counted from one; it need not exist. -/
  page : Int := 1
  /-- The size of a page, if it is not to be the configured one. -/
  pageSize? : Option Nat := none
  deriving DecidableEq, Repr, Inhabited

/-- One page of a table. -/
structure TablePage where
  table : String
  /-- The text searched for; empty if everything is found. -/
  query : String
  columns : List Column
  rows : List Row
  window : PageWindow
  sort : SortOrder
  /-- The number style of the column that the rows are sorted by. -/
  sortStyle : AmountStyle
  deriving Inhabited

/-- A view of a table before its rows are read. -/
structure Prepared where
  columns : List Column
  search : Search
  order : OrderClause

/-- The table has a column of this name, whatever the case of ASCII letters. -/
def hasColumn (columns : List Column) (name : String) : Bool :=
  columns.any fun c => sameName c.name name

/-- The order asked for, if the table has the column. -/
def resolveOrder (contents : Contents) (config : Config) (request : TableRequest)
    (columns : List Column) (search : Search) : Result OrderClause := do
  match request.sort.column? with
  | some column =>
    if !hasColumn columns column then throw (.columnNotFound request.table column)
  | none => pure ()
  OrderClause.ofSort ⟨config.sampleSize⟩ contents request.table request.sort search

/-- Finds the columns, the search and the order of a view. -/
def prepare (contents : Contents) (config : Config) (request : TableRequest) :
    Result Prepared := do
  let columns ← contents.columns request.table
  let search ← Search.ofQuery (columnNames columns) request.query
  let order ← resolveOrder contents config request columns search
  return ⟨columns, search, order⟩

/-- How many records of a table are found. -/
def countRows (contents : Contents) (table : String) (search : Search) : Result Nat := do
  let source ← Identifier.ofName table
  search.checkDepth 0
  let rel ← contents.source source
  return (search.matching rel).length

/-- A record as a row of the named columns. -/
def rowOf (rel : Relation) (columns : List Identifier) (record : Record) : Row :=
  ⟨columns.map fun id => (id.name, (rel.cell id.name record).read)⟩

/-- The rows that are found, in order; of them, those that `slice` takes. -/
def fetchRows (contents : Contents) (table : String) (view : Prepared)
    (slice : List Record → List Record) : Result (List Row) := do
  let source ← Identifier.ofName table
  let identifiers ← (columnNames view.columns).mapM Identifier.ofName
  view.search.checkDepth 0
  let rel ← contents.source source
  let records := view.order.arrange rel (view.search.matching rel)
  return (slice records).map (rowOf rel identifiers)

/-- One page of a table. -/
def loadPage (contents : Contents) (config : Config) (request : TableRequest) :
    Result TablePage := do
  let view ← prepare contents config request
  let total ← countRows contents request.table view.search
  let window := PageWindow.compute total (request.pageSize?.getD config.defaultPageSize)
    request.page
  let rows ←
    if window.limit = 0 then pure []
    else fetchRows contents request.table view window.slice
  return ⟨request.table, view.search.query, view.columns, rows, window, request.sort,
    view.order.style⟩

/-- All rows of a table that are found, in order, whatever page is asked for. -/
def loadAll (contents : Contents) (config : Config) (request : TableRequest) :
    Result (List Column × List Row) := do
  let view ← prepare contents config request
  let rows ← fetchRows contents request.table view id
  return (view.columns, rows)

end TableExplorer
