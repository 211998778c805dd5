import TableExplorer.Amount.Writing
import TableExplorer.Binary64.CompensatedSum
import TableExplorer.Grouping
import TableExplorer.View.Page

/-!
Histograms: how often which value occurs in a column, among the records that a search finds.

* A column of amounts has a bucket for each amount rounded to the two decimals that its label
  shows, with the sum of what fell into it (`amountEntries`).
* Any other column has a bucket for each value (`valueEntries`), by frequency or by value; values
  that its collation does not tell apart share one, which is labelled by the first of them.
* `Histogram.compute` answers a request; what goes wrong after the names and the search text have
  been checked is told as a missing histogram.
-/

namespace TableExplorer

/-- What is to be counted. -/
structure HistogramRequest where
  table : String
  column : String
  query : String := ""
  /-- How many buckets there may be, if not as many as configured. -/
  limit? : Option Nat := none
  /-- The direction of buckets that are ordered by value. -/
  direction : Direction := .ascending
  /-- Buckets of values that are no amounts go by frequency, the most frequent first. -/
  byCount : Bool := true
  deriving DecidableEq, Repr, Inhabited

/-- One bucket. -/
structure HistogramEntry where
  label : String
  count : Nat
  /-- The sum of the amounts in a bucket of amounts. -/
  sum? : Option Binary64
  deriving DecidableEq, Inhabited

/-- A histogram, or why there is none. -/
inductive Histogram where
  | data (column : String) (style : AmountStyle) (entries : List HistogramEntry)
  | noData (reason : String)
  deriving Inhabited

namespace Histogram

/-- There is no histogram. -/
def isNoData : Histogram → Bool
  | .data .. => false
  | .noData _ => true

/-- The buckets. -/
def entries : Histogram → List HistogramEntry
  | .data _ _ entries => entries
  | .noData _ => []

/-- The buckets of amounts, by their rounded value. -/
def amountEntries (direction : Direction) (amounts : List Binary64) : List HistogramEntry :=
  let keyed := amounts.map fun x => (Cell.real x.roundedToCents, x)
  (groupBy (direction.compareBy Cell.compare) (·.1) keyed).map fun (first, group) =>
    ⟨Amount.writeLocale first.2.roundedToCents, group.length,
      Binary64.compensatedSum (group.map (·.2))⟩

/-- The order of two buckets by falling frequency, and by value where that is equal. -/
def compareByCount (collation : Collation) (a b : Cell × List Cell) : Ordering :=
  (compare b.2.length a.2.length).then (Cell.compare (collation.key a.1) (collation.key b.1))

/-- The buckets of values that are no amounts. -/
def valueEntries (direction : Direction) (byCount : Bool) (collation : Collation)
    (cells : List Cell) : List HistogramEntry :=
  let groups :=
    if byCount then sortBy (compareByCount collation) (groupBy Cell.compare collation.key cells)
    else groupBy (direction.compareBy Cell.compare) collation.key cells
  groups.map fun (first, group) => ⟨first.read.display, group.length, none⟩

/-- All buckets of a column among the records that are found. -/
def entriesOf (request : HistogramRequest) (style : AmountStyle) (collation : Collation)
    (cells : List Cell) : List HistogramEntry :=
  if style.isNumeric then amountEntries request.direction (cells.filterMap (Cell.amount? style))
  else valueEntries request.direction request.byCount collation cells

/-- How many buckets a request allows; at least one. -/
def limitOf (config : Config) (request : HistogramRequest) : Nat :=
  max (request.limit?.getD config.histogramLimit) 1

/-- The histogram of a column that the table has. -/
def buckets (contents : Contents) (config : Config) (request : HistogramRequest)
    (search : Search) : Result Histogram := do
  let style := StyleDetector.detect ⟨config.sampleSize⟩ contents request.table request.column search
  let table ← Identifier.ofName request.table
  let column ← Identifier.ofName request.column
  search.checkDepth 0
  let rel ← contents.source table
  checkLimit (limitOf config request)
  let cells := (search.matching rel).map fun record => rel.cell column.name record
  match (entriesOf request style (rel.collation column.name) cells).take
      (limitOf config request) with
  | [] => return .noData "no values"
  | entries => return .data request.column style entries

/-- The histogram that is asked for. -/
def compute (contents : Contents) (config : Config) (request : HistogramRequest) :
    Result Histogram := do
  let columns ← contents.columns request.table
  if !hasColumn columns request.column then
    return .noData ("column '" ++ request.column ++ "' not found")
  let search ← Search.ofQuery (columnNames columns) request.query
  match buckets contents config request search with
  | .ok histogram => return histogram
  | .error e => return .noData e.message

end Histogram

end TableExplorer
