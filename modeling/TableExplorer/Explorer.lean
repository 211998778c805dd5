import TableExplorer.Dashboard.Aggregate
import TableExplorer.Export.Basic
import TableExplorer.Histogram

/-!
Explorers: a dataset together with the conventions by which it is read.  An explorer only reads, so
nothing that is asked of it changes later answers.
-/

namespace TableExplorer

/-- A dataset file and the configuration by which it is read. -/
structure Explorer where
  contents : Contents
  config : Config
  deriving Inhabited

namespace Explorer

/-- Opens a dataset file, if there is one, with a configuration that can be used. -/
def «open» (file? : Option Contents) (config : Config) : Result Explorer := do
  config.check
  match file? with
  | some contents => return ⟨contents, config⟩
  | none => throw (.io "dataset not found")

/-- All tables. -/
def tables (e : Explorer) : Result (List String) := e.contents.tableNames

/-- The tables that hold no attachments. -/
def baseTables (e : Explorer) : Result (List String) := e.contents.baseTables e.config

/-- The columns of a table or view. -/
def columns (e : Explorer) (table : String) : Result (List Column) := e.contents.columns table

/-- There is a table of exactly this name. -/
def tableExists (e : Explorer) (table : String) : Result Bool := e.contents.tableExists table

/-- The table that holds the attachments of a table. -/
def attachmentTable? (e : Explorer) (table : String) : Result (Option String) :=
  e.contents.attachmentTable? e.config table

/-- One page of a table. -/
def page (e : Explorer) (request : TableRequest) : Result TablePage :=
  loadPage e.contents e.config request

/-- All rows of a view. -/
def rows (e : Explorer) (request : TableRequest) : Result (List Column × List Row) :=
  loadAll e.contents e.config request

/-- All rows of a view as comma-separated text, and their number. -/
def exportCsv (e : Explorer) (request : TableRequest) : Result (Nat × String) := do
  let (columns, rows) ← e.rows request
  return writeCsv columns rows

/-- The histogram of a column. -/
def histogram (e : Explorer) (request : HistogramRequest) : Result Histogram :=
  Histogram.compute e.contents e.config request

/-- What a table contributes to a dashboard. -/
def tableSummary (e : Explorer) (table query : String) : Result TableSummary :=
  TableSummary.compute e.contents e.config table query

/-- The dashboard of one table. -/
def summarizeTable (e : Explorer) (table query : String) : Result Aggregate := do
  return mergeSummaries query [← e.tableSummary table query] (.ofConfig e.config)

/-- The summaries of those tables that can be summarised. -/
def summaries (e : Explorer) (query : String) (tables : List String) : List TableSummary :=
  tables.filterMap fun table => (e.tableSummary table query).toOption

/-- The dashboard of all base tables; a table that cannot be summarised is left out. -/
def summarizeAll (e : Explorer) (query : String) : Result Aggregate := do
  return mergeSummaries query (e.summaries query (← e.baseTables)) (.ofConfig e.config)

/-- Runs a statement that would change the dataset, which is refused. -/
def execute (_ : Explorer) (_statement : String) : Result Unit :=
  .error (.query "attempt to write a readonly database")

end Explorer

end TableExplorer
