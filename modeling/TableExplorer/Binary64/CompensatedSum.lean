import TableExplorer.Binary64.Arithmetic

/-!
Compensated summation: beside the running total, the sum of the rounding errors is kept and added
at the end.  `compensatedSum` is the sum of a column of reals in the order in which they are read;
an empty column, and one that meets opposite infinities, has no sum.
-/

namespace TableExplorer.Binary64

/-- A running total and the rounding errors lost from it so far. -/
structure Compensated where
  total : Binary64
  error : Binary64

/-- Adds one number; the error is what the larger of the two terms lost. -/
def Compensated.add (acc : Compensated) (x : Binary64) : Compensated :=
  let total := acc.total + x
  let lost :=
    if acc.total.abs.compare? x.abs = some .gt then (acc.total - total) + x
    else (x - total) + acc.total
  ⟨total, acc.error + lost⟩

/-- The total with its errors put back, unless the errors ran out of the format. -/
def Compensated.result (acc : Compensated) : Binary64 :=
  if acc.error.isFinite then acc.total + acc.error else acc.total

/-- The sum of the numbers in order. -/
def compensatedSum (xs : List Binary64) : Option Binary64 :=
  if xs.isEmpty then none
  else
    match (xs.foldl Compensated.add ⟨zero, zero⟩).result with
    | .nan => none
    | sum => some sum

end TableExplorer.Binary64
