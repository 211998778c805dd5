import TableExplorer.Dashboard.Month
import TableExplorer.Dashboard.Selection

/-!
Records by month.  The month is taken from the end of a date's text; records whose text ends in no
month are left out.
-/

namespace TableExplorer

/-- The records of one month. -/
structure MonthlyBucket where
  month : String
  count : Nat
  /-- The sum of amounts, if the table has amounts. -/
  amount? : Option Binary64
  deriving DecidableEq, Inhabited

/-- The name under which records are grouped by month. -/
def monthName : String := "ym"

/-- The key of a month in a text that ends in day, month and year: its last four characters, a
hyphen, and the two characters before the separator in front of them. -/
def monthKey (date : ByteArray) : ByteArray :=
  ⟨(lastPiece 4 4 date ++ '-'.toUInt8 :: lastPiece 7 2 date).toArray⟩

/-- The records of one group as a bucket, if its key is a month. -/
def Selection.monthlyBucket? (s : Selection) (group : Option ByteArray × List Record) :
    Result (Option MonthlyBucket) := do
  match group.1 with
  | none => return none
  | some bytes =>
    return (Month.ofKey? (← shownText bytes)).map fun month =>
      ⟨month.text, group.2.length, s.amountKey?.map fun _ => (s.sum? group.2).getD 0⟩

/-- The buckets of months, by ascending keys. -/
def Selection.monthlyBuckets (s : Selection) (column : Identifier) :
    Result (List MonthlyBucket) := do
  let key? (record : Record) : Option ByteArray := (s.trimmed? column record).map monthKey
  let groups := groupRecords s.relation monthName (fun record => textCell (key? record)) s.records
  let keyed := groups.map fun (first, group) => (key? first, group)
  let sorted := sortBy (fun a b => Cell.compare (textCell a.1) (textCell b.1)) keyed
  return (← sorted.mapM s.monthlyBucket?).filterMap id

end TableExplorer
