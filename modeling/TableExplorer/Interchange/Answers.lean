import TableExplorer.Dashboard.Aggregate
import TableExplorer.Histogram
import TableExplorer.Json.Writer

/-!
Answers as JSON: what programs get.
-/

namespace TableExplorer

/-- Writes a value. -/
def Value.toJson : Value → Json
  | .null => .null
  | .integer i => .integer i.toInt
  | .real x => .real x
  | .text s => .string s

/-- Writes a row as an object with its cells in order. -/
def Row.toJson (row : Row) : Json := .object (row.cells.map fun (name, v) => (name, v.toJson))

/-- Writes a column. -/
def Column.toJson (c : Column) : Json :=
  .object [("name", .string c.name), ("declared_type", .string c.declaredType)]

/-- Writes an order. -/
def SortOrder.toJson (s : SortOrder) : Json :=
  .object [("column", .ofString? s.column?), ("direction", .string s.direction.name)]

/-- Writes a window. -/
def PageWindow.toJson (w : PageWindow) : Json :=
  .object [("page", .ofNat w.page), ("pages", .ofNat w.pages), ("page_size", .ofNat w.pageSize),
    ("offset", .ofNat w.offset), ("limit", .ofNat w.limit), ("total", .ofNat w.total)]

/-- Writes a page. -/
def TablePage.toJson (p : TablePage) : Json :=
  .object [("table", .string p.table), ("query", .string p.query),
    ("columns", .array (p.columns.map Column.toJson)), ("rows", .array (p.rows.map Row.toJson)),
    ("total", .ofNat p.window.total), ("page", .ofNat p.window.page),
    ("pages", .ofNat p.window.pages), ("page_size", .ofNat p.window.pageSize),
    ("offset", .ofNat p.window.offset), ("sort", p.sort.toJson),
    ("sort_style", .string p.sortStyle.name)]

/-- Writes a bucket of a histogram. -/
def HistogramEntry.toJson (e : HistogramEntry) : Json :=
  .object [("label", .string e.label), ("count", .ofNat e.count), ("sum", .ofReal? e.sum?)]

/-- Writes a histogram. -/
def Histogram.toJson : Histogram → Json
  | .data column style entries =>
    .object [("status", .string "data"), ("column", .string column), ("style", .string style.name),
      ("entries", .array (entries.map HistogramEntry.toJson))]
  | .noData reason => .object [("status", .string "no_data"), ("reason", .string reason)]

/-- Writes the roles of columns. -/
def TableRoles.toJson (r : TableRoles) : Json :=
  .object [("record_type", .ofString? r.recordType?), ("amount", .ofString? r.amount?),
    ("awardee", .ofString? r.awardee?), ("record_id", .ofString? r.recordId?),
    ("description", .ofString? r.description?), ("date", .ofString? r.date?)]

/-- Writes a count under a label. -/
def LabeledCount.toJson (e : LabeledCount) : Json :=
  .object [("label", .string e.label), ("count", .ofNat e.count)]

/-- Writes a sum under a label. -/
def LabeledAmount.toJson (e : LabeledAmount) : Json :=
  .object [("label", .string e.label), ("amount", .real e.amount)]

/-- Writes an awardee. -/
def AwardeeCount.toJson (e : AwardeeCount) : Json :=
  .object [("key", .string e.key), ("display", .string e.display), ("count", .ofNat e.count)]

/-- Writes the records of a month. -/
def MonthlyBucket.toJson (b : MonthlyBucket) : Json :=
  .object [("month", .string b.month), ("count", .ofNat b.count), ("amount", .ofReal? b.amount?)]

/-- Writes a record of a high amount. -/
def TopRecord.toJson (r : TopRecord) : Json :=
  .object [("table", .string r.table), ("label", .string r.label), ("amount", .real r.amount),
    ("record_id", .ofString? r.recordId?), ("description", .ofString? r.description?)]

/-- Writes an attachment coverage. -/
def AttachmentCoverage.toJson (a : AttachmentCoverage) : Json :=
  .object [("with_attachments", .ofNat a.covered), ("without_attachments", .ofNat a.uncovered)]

/-- Writes the summary of a table. -/
def TableSummary.toJson (s : TableSummary) : Json :=
  .object [("table", .string s.table), ("total_rows", .ofNat s.totalRows),
    ("amount_style", .string s.amountStyle.name),
    ("type_counts", .array (s.typeCounts.map LabeledCount.toJson)),
    ("type_sums", .array (s.typeSums.map LabeledAmount.toJson)),
    ("awardees", .array (s.awardees.map AwardeeCount.toJson)),
    ("monthly", .array (s.monthly.map MonthlyBucket.toJson)),
    ("top_records", .array (s.topRecords.map TopRecord.toJson)),
    ("attachments", (s.attachments?.map AttachmentCoverage.toJson).getD .null)]

/-- Writes a series whose values are written by `value`. -/
def StackedSeries.toJson {α : Type} (value : α → Json) (s : StackedSeries α) : Json :=
  let stack (k : Stack α) : Json :=
    .object [("table", .string k.table), ("values", .array (k.values.map value))]
  .object [("labels", .ofStrings s.labels), ("totals", .array (s.totals.map value)),
    ("stacks", .array (s.byTable.map stack))]

/-- Writes a dashboard. -/
def Aggregate.toJson (a : Aggregate) : Json :=
  .object [("query", .string a.query), ("tables", .ofStrings a.tables),
    ("total_rows", .ofNat a.totalRows), ("type_counts", a.typeCounts.toJson .ofNat),
    ("type_sums", a.typeSums.toJson .real), ("awardees", a.awardees.toJson .ofNat),
    ("monthly_counts", a.monthlyCounts.toJson .ofNat),
    ("monthly_sums", a.monthlySums.toJson .real),
    ("top_records", .array (a.topRecords.map TopRecord.toJson)),
    ("attachments", a.attachments.toJson)]

end TableExplorer
