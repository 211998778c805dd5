import TableExplorer.Numeral.Fixed

/-!
Writing amounts with two decimals.

* `writeLocale`: points between groups of three digits and a decimal comma, a minus only where some
  digit is not zero.
* `writeExport`: a decimal point and no grouping.
-/

namespace TableExplorer.Amount

/-- Puts a point after every third digit, the digits coming last one first. -/
def groupReversed : List Char → List Char
  | a :: b :: c :: d :: rest => a :: b :: c :: '.' :: groupReversed (d :: rest)
  | cs => cs

/-- Puts points between groups of three digits, counted from the end. -/
def groupThousands (digits : List Char) : List Char := (groupReversed digits.reverse).reverse

/-- The amount as people read it. -/
def writeLocale : Binary64 → String
  | .finite negative m =>
    let (whole, decimals) := Binary64.hundredthsDigits (m.hundredths .toEven)
    Binary64.signText (negative && decide (m.hundredths .toEven ≠ 0)) ++
      String.ofList (groupThousands whole ++ ',' :: decimals)
  | x => x.toText

/-- The amount as programs read it. -/
def writeExport (x : Binary64) : String := x.twoPlaces

end TableExplorer.Amount
