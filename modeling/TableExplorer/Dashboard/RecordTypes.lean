import TableExplorer.Config.Basic
import TableExplorer.Dashboard.Selection

/-!
Counts and sums by record type.  The type of a record is its type column's text without the spaces
around it; records without a type share one label.
-/

namespace TableExplorer

/-- How often a label occurs. -/
structure LabeledCount where
  label : String
  count : Nat
  deriving DecidableEq, Repr, Inhabited

/-- The sum of amounts under a label. -/
structure LabeledAmount where
  label : String
  amount : Binary64
  deriving DecidableEq, Inhabited

/-- The name under which records are grouped by type. -/
def typeName : String := "k"

/-- The count and the amounts of one label. -/
structure TypeTotal where
  label : String
  count : Nat
  amount : Binary64
  deriving Inhabited

namespace TypeTotal

/-- The label of a type: blank types share one. -/
def labelOf (config : Config) (type? : Option ByteArray) : Result String := do
  let label ← shownText (type?.getD ByteArray.empty)
  return if label.isEmpty then config.blankTypeLabel else label

/-- The total of one group of records. -/
def ofGroup (s : Selection) (config : Config) (column : Identifier)
    (group : Record × List Record) : Result TypeTotal := do
  let label ← labelOf config (s.trimmed? column group.1)
  return ⟨label, group.2.length, (s.sum? group.2).getD 0⟩

/-- The totals under one label become one total. -/
def combine (totals : List TypeTotal) : List TypeTotal :=
  (representatives (fun a b => a.label == b.label) totals).map fun first =>
    let same := totals.filter fun t => first.label == t.label
    ⟨first.label, same.foldl (fun sum t => sum + t.count) 0,
      same.foldl (fun sum t => sum + t.amount) 0⟩

/-- The totals of all types, by their groups. -/
def ofSelection (s : Selection) (config : Config) (column : Identifier) :
    Result (List TypeTotal) := do
  let type (record : Record) : Cell := textCell (s.trimmed? column record)
  let groups := groupRecords s.relation typeName type s.records
  return combine (← groups.mapM (ofGroup s config column))

end TypeTotal

/-- The counts by type, the most frequent first. -/
def TypeTotal.counts (totals : List TypeTotal) : List LabeledCount :=
  sortBy (fun a b => (compare b.count a.count).then (compareText a.label b.label))
    (totals.map fun t => ⟨t.label, t.count⟩)

/-- The sums by type, the largest first. -/
def TypeTotal.sums (totals : List TypeTotal) : List LabeledAmount :=
  sortBy (fun a b => (a.amount.compareDescending b.amount).then (compareText a.label b.label))
    (totals.map fun t => ⟨t.label, t.amount⟩)

end TableExplorer
