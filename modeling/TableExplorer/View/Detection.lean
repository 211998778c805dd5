import TableExplorer.Dataset.Statement
import TableExplorer.View.Search

/-!
Finding the number style of a column.  A `StyleDetector` takes the first values of the column that
are not blank, among the records that a search finds, and lets them decide.  A column that cannot be
sampled holds texts.
-/

namespace TableExplorer

/-- Finds number styles by at most so many sampled values, and at least one. -/
structure StyleDetector where
  sampleSize : Nat := 50
  deriving DecidableEq, Repr, Inhabited

/-- The cell, cast to text, is more than spaces. -/
def Cell.isSampled (cell : Cell) : Bool :=
  match cell.trimmedText? with
  | some bytes => !bytes.isEmpty
  | none => false

namespace StyleDetector

/-- How many values are sampled. -/
def limit (d : StyleDetector) : Nat := max d.sampleSize 1

/-- The sampled values of a column among the records that are found, as they are shown. -/
def samplesIn (d : StyleDetector) (rel : Relation) (column : Identifier) (search : Search) :
    List String :=
  let cells := (search.matching rel).map fun record => rel.cell column.name record
  ((cells.filter Cell.isSampled).take d.limit).map fun cell => cell.read.display

/-- The sampled values of a column of a table.  That they are more than spaces is a condition of the
statement beside that of the search. -/
def samples (d : StyleDetector) (contents : Contents) (table column : String) (search : Search) :
    Result (List String) := do
  let column ← Identifier.ofName column
  let table ← Identifier.ofName table
  search.checkDepth 1
  let rel ← contents.source table
  checkLimit d.limit
  return d.samplesIn rel column search

/-- The number style of a column of a table. -/
def detect (d : StyleDetector) (contents : Contents) (table column : String) (search : Search) :
    AmountStyle :=
  match d.samples contents table column search with
  | .ok samples => .classify samples
  | .error _ => .text

end StyleDetector

end TableExplorer
