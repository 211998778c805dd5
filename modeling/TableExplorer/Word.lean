/-!
Whole numbers that 64 bits hold, with a sign or without one.

* `Word.int64?` takes an integer that lies in the range of `Int64`.
* `Word.size?` takes an integer that is a size.
-/

namespace TableExplorer.Word

/-- How many values 64 bits have. -/
def bound : Nat := Nat.pow 2 64

/-- How many values 64 bits have without the one for the sign. -/
def signedBound : Nat := Nat.pow 2 63

/-- An integer that 64 bits hold with a sign. -/
def int64? (i : Int) : Option Int64 :=
  if -(signedBound : Int) ≤ i ∧ i < signedBound then some (.ofInt i) else none

/-- An integer that 64 bits hold without a sign. -/
def size? (i : Int) : Option Nat :=
  if 0 ≤ i ∧ i < bound then some i.toNat else none

end TableExplorer.Word
