import TableExplorer.Dashboard.Roles
import TableExplorer.Dashboard.Selection

/-!
The records of the highest amounts.  A record is labelled by its description, and failing that by
its identifier, its awardee or the name of its table.
-/

namespace TableExplorer

/-- A record of a high amount. -/
structure TopRecord where
  table : String
  label : String
  amount : Binary64
  recordId? : Option String
  description? : Option String
  deriving DecidableEq, Inhabited

/-- A label of at most so many characters; a longer one is cut, and the ellipsis put behind it. -/
def truncateLabel (label : String) (maxChars : Nat) (ellipsis : String) : String :=
  let cs := label.toList
  if cs.length ≤ maxChars then label else String.ofList (cs.take maxChars) ++ ellipsis

/-- The text of a column in a record, if there is such a column and it is not blank. -/
def Selection.shownField? (s : Selection) (column? : Option Identifier)
    (record : Record) : Option String := do
  (s.relation.cell (← column?).name record).read.nonBlankText?

/-- The records of the highest amounts, as many as are kept. -/
def Selection.topRecords (s : Selection) (config : Config) (roles : TableRoles) :
    Result (List TopRecord) := do
  let recordId? ← roles.recordId?.mapM Identifier.ofName
  let description? ← roles.description?.mapM Identifier.ofName
  let awardee? ← roles.awardee?.mapM Identifier.ofName
  checkLimit config.topRecords
  let amounts := s.records.filterMap fun record => (s.amount? record).map fun x => (x, record)
  let sorted := sortBy (fun a b => Cell.compare (.real b.1) (.real a.1)) amounts
  return (sorted.take config.topRecords).map fun (amount, record) =>
    let id? := s.shownField? recordId? record
    let text? := s.shownField? description? record
    let label := (text?.or (id?.or (s.shownField? awardee? record))).getD s.table.name
    ⟨s.table.name, truncateLabel label config.labelMaxChars config.ellipsis, amount, id?, text?⟩

end TableExplorer
