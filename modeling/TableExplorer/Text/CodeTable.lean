/-!
Look-up in tables of code points.  A table is an array in ascending order of a key; `lastAtMost`
halves it until one entry is left, so that large tables are searched quickly.
-/

namespace TableExplorer.Text

/-- Searches between `low`, the number of entries known to have a key of at most `n`, and `high`,
from where on all keys are known to be greater. -/
def lastAtMostBetween (key : α → Nat) (table : Array α) (n : Nat) : Nat → Nat → Nat → Option α
  | 0, _, _ => none
  | fuel + 1, low, high =>
    if high ≤ low then if low = 0 then none else table[low - 1]?
    else
      let middle := (low + high) / 2
      match table[middle]? with
      | some entry =>
        if key entry ≤ n then lastAtMostBetween key table n fuel (middle + 1) high
        else lastAtMostBetween key table n fuel low middle
      | none => none

/-- The last entry of an ascending table whose key is at most `n`. -/
def lastAtMost (key : α → Nat) (table : Array α) (n : Nat) : Option α :=
  lastAtMostBetween key table n (table.size + 1) 0 table.size

/-- The number lies in one of the runs, each given by its first and last number. -/
def inRuns (runs : Array (Nat × Nat)) (n : Nat) : Bool :=
  match lastAtMost (·.1) runs n with
  | some (_, last) => n ≤ last
  | none => false

end TableExplorer.Text
