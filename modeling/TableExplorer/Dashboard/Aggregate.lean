import TableExplorer.Dashboard.Series
import TableExplorer.Dashboard.TableSummary

/-!
The dashboard of several tables.  `mergeSummaries` puts the summaries of the tables together: the
tables go by name, and every series has an axis that all tables share.
-/

namespace TableExplorer

/-- The dashboard of some tables under a search. -/
structure Aggregate where
  query : String
  /-- The tables that contribute, by name. -/
  tables : List String
  totalRows : Nat
  typeCounts : StackedSeries Nat
  typeSums : StackedSeries Binary64
  awardees : StackedSeries Nat
  monthlyCounts : StackedSeries Nat
  monthlySums : StackedSeries Binary64
  topRecords : List TopRecord
  attachments : AttachmentCoverage
  deriving Inhabited

/-- How much of a ranking a dashboard keeps. -/
structure MergeLimits where
  awardees : Nat
  topRecords : Nat
  deriving DecidableEq, Repr, Inhabited

/-- The configured limits. -/
def MergeLimits.ofConfig (config : Config) : MergeLimits :=
  ⟨config.awardeesGlobal, config.topRecords⟩

/-- What the tables contribute to a series; tables without entries are left out. -/
def contributions {α : Type} (entries : TableSummary → List (SeriesEntry α))
    (partials : List TableSummary) : List (Contribution α) :=
  (partials.map fun p => ⟨p.table, entries p⟩).filter fun c => !c.entries.isEmpty

namespace TableSummary

/-- The counts by type as entries of a series. -/
def typeCountEntries (p : TableSummary) : List (SeriesEntry Nat) :=
  p.typeCounts.map fun e => ⟨e.label, e.label, e.count⟩

/-- The sums by type as entries of a series. -/
def typeSumEntries (p : TableSummary) : List (SeriesEntry Binary64) :=
  p.typeSums.map fun e => ⟨e.label, e.label, e.amount⟩

/-- The awardees as entries of a series. -/
def awardeeEntries (p : TableSummary) : List (SeriesEntry Nat) :=
  p.awardees.map fun e => ⟨e.key, e.display, e.count⟩

/-- The counts by month as entries of a series. -/
def monthlyCountEntries (p : TableSummary) : List (SeriesEntry Nat) :=
  p.monthly.map fun e => ⟨e.month, e.month, e.count⟩

/-- The sums by month as entries of a series, where there are sums. -/
def monthlySumEntries (p : TableSummary) : List (SeriesEntry Binary64) :=
  p.monthly.filterMap fun e => e.amount?.map fun amount => ⟨e.month, e.month, amount⟩

end TableSummary

/-- The order of records from the highest amount down, equal ones by table and label. -/
def TopRecord.compareDescending (a b : TopRecord) : Ordering :=
  (a.amount.compareDescending b.amount).then
    ((compareText a.table b.table).then (compareText a.label b.label))

/-- Puts the summaries of tables together. -/
def mergeSummaries (query : String) (summaries : List TableSummary) (limits : MergeLimits) :
    Aggregate :=
  let partials := sortBy (fun a b => compareText a.table b.table) summaries
  let typeCounts := contributions TableSummary.typeCountEntries partials
  let typeSums := contributions TableSummary.typeSumEntries partials
  let awardees := contributions TableSummary.awardeeEntries partials
  let monthlyCounts := contributions TableSummary.monthlyCountEntries partials
  let monthlySums := contributions TableSummary.monthlySumEntries partials
  let months := rank .byKey none monthlyCounts
  let records := sortBy TopRecord.compareDescending (partials.flatMap (·.topRecords))
  { query := Text.trim query
    tables := partials.map (·.table)
    totalRows := (partials.map (·.totalRows)).sum
    typeCounts := combine .byTotal none typeCounts
    typeSums := combine .byTotal none typeSums
    awardees := combine .byTotal (some limits.awardees) awardees
    monthlyCounts := align months monthlyCounts
    monthlySums := align months monthlySums
    topRecords := records.take limits.topRecords
    attachments := (partials.filterMap (·.attachments?)).foldl (· + ·) {} }

end TableExplorer
