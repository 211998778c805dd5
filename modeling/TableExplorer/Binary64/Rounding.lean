import TableExplorer.Rounding
import TableExplorer.Binary64.Basic

/-!
The binary64 number nearest to a rational number.  `roundToQuanta` finds the grid of 53 leading
bits that the quotient falls on and rounds to it, an exact half going to the even neighbour;
`ofRatio` and `ofInt` are what the rest of the library calls.
-/

namespace TableExplorer.Binary64

/-- The nearest number of quanta with at most 53 leading bits, for `num / den` quanta. -/
def roundToQuanta (num den : Nat) : Nat :=
  let spacing := Nat.pow 2 ((num / den).log2 - 52)
  roundQuotient .toEven num (den * spacing) * spacing

/-- The number nearest to `num / den`, with the given sign. -/
def ofRatio (negative : Bool) (num den : Nat) : Binary64 :=
  ofQuanta negative (roundToQuanta (num * quantaPerUnit) den)

/-- The number nearest to an integer. -/
def ofInt (i : Int) : Binary64 :=
  ofRatio (decide (i < 0)) i.natAbs 1

end TableExplorer.Binary64
