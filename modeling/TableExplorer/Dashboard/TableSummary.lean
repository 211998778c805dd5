import TableExplorer.Dashboard.Attachments
import TableExplorer.Dashboard.Awardees
import TableExplorer.Dashboard.Monthly
import TableExplorer.Dashboard.RecordTypes
import TableExplorer.Dashboard.TopRecords
import TableExplorer.View.Page

/-!
The summary of one table: what it contributes to a dashboard under a search.

* `TableSummary` holds the counts and sums by record type, the awardees, the months, the records of
  the highest amounts and the attachment coverage.
* `TableSummary.compute` makes the summary; a part whose column the table lacks stays empty.
-/

namespace TableExplorer

/-- What one table contributes to a dashboard. -/
structure TableSummary where
  table : String
  totalRows : Nat := 0
  amountStyle : AmountStyle := .text
  typeCounts : List LabeledCount := []
  typeSums : List LabeledAmount := []
  awardees : List AwardeeCount := []
  monthly : List MonthlyBucket := []
  topRecords : List TopRecord := []
  attachments? : Option AttachmentCoverage := none
  deriving Inhabited

/-- The style of the amounts of a table; without an amount column they are text. -/
def amountStyleOf (contents : Contents) (config : Config) (table : String) (roles : TableRoles)
    (search : Search) : AmountStyle :=
  match roles.amount? with
  | some column => StyleDetector.detect ⟨config.sampleSize⟩ contents table column search
  | none => .text

/-- The key of the amounts of a table, if its amount column holds amounts. -/
def amountKeyOf (roles : TableRoles) (style : AmountStyle) : Result (Option SortKey) :=
  match roles.amount? with
  | some column => if style.isNumeric then some <$> SortKey.ofColumn column style else .ok none
  | none => .ok none

/-- Does what needs a column, if there is one; else the answer is empty. -/
def withColumn {α : Type} [Inhabited α] (column? : Option String) (f : Identifier → Result α) :
    Result α :=
  match column? with
  | some column => Identifier.ofName column >>= f
  | none => .ok default

/-- The records of the highest amounts, if there are amounts. -/
def Selection.topAmounts (s : Selection) (config : Config) (roles : TableRoles) :
    Result (List TopRecord) :=
  if s.amountKey?.isSome then s.topRecords config roles else .ok []

/-- The coverage of the records, if the table has record identifiers. -/
def Selection.coverage? (s : Selection) (contents : Contents) (config : Config)
    (roles : TableRoles) : Result (Option AttachmentCoverage) :=
  match roles.recordId? with
  | some column => attachmentCoverage? contents config s.table s.relation s.records column
  | none => .ok none

/-- The summary of a table under a search. -/
def TableSummary.compute (contents : Contents) (config : Config) (table query : String) :
    Result TableSummary := do
  let columns ← contents.columns table
  let search ← Search.ofQuery (columnNames columns) query
  let roles := TableRoles.resolve config table (columnNames columns)
  let totalRows ← countRows contents table search
  let style := amountStyleOf contents config table roles search
  let amountKey? ← amountKeyOf roles style
  let source ← Identifier.ofName table
  let rel ← contents.source source
  let s : Selection := ⟨source, rel, search.matching rel, amountKey?⟩
  let totals ← withColumn roles.recordType? (TypeTotal.ofSelection s config)
  let awardees ← withColumn roles.awardee? (s.awardees config)
  let monthly ← withColumn roles.date? s.monthlyBuckets
  let top ← s.topAmounts config roles
  let attachments? ← s.coverage? contents config roles
  return {
    table := table
    totalRows := totalRows
    amountStyle := style
    typeCounts := TypeTotal.counts totals
    typeSums := if amountKey?.isSome then TypeTotal.sums totals else []
    awardees := awardees
    monthly := monthly
    topRecords := top
    attachments? := attachments? }

end TableExplorer
