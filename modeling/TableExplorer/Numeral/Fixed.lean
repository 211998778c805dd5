import TableExplorer.Numeral.Shortest

/-!
Numbers with exactly two decimal places.  The exact value is rounded to hundredths, a half going
to the even neighbour (`Magnitude.hundredths`); `Magnitude.twoPlaces` writes them with a point.
`Binary64.roundedToCents` rounds a number to the number nearest its two-place decimal, a half
going away from zero.
-/

namespace TableExplorer.Binary64

/-- The magnitude in hundredths, rounded. -/
def Magnitude.hundredths (tie : Tie) (m : Magnitude) : Nat :=
  roundQuotient tie (m.quanta * 100) quantaPerUnit

/-- The whole part and the two decimals of a number of hundredths. -/
def hundredthsDigits (n : Nat) : List Char × List Char :=
  ScaledDigits.positional ⟨n, -2⟩

/-- The magnitude with a point and two decimals. -/
def Magnitude.twoPlaces (m : Magnitude) : String :=
  let (whole, decimals) := hundredthsDigits (m.hundredths .toEven)
  String.ofList (whole ++ '.' :: decimals)

/-- The number with a point and two decimals; a negative number keeps its sign even where the
digits are all zero. -/
def twoPlaces : Binary64 → String
  | .finite negative m => signText negative ++ m.twoPlaces
  | x => x.toText

/-- From here on the format has no fractions. -/
def wholeFrom : Nat := Nat.pow 2 52 * quantaPerUnit

/-- The number nearest to the two-place decimal, a half going away from zero; numbers too large to
have a fraction stay. -/
def roundedToCents : Binary64 → Binary64
  | .finite negative m =>
    if wholeFrom < m.quanta then .finite negative m
    else ofRatio negative (m.hundredths .awayFromZero) 100
  | x => x

end TableExplorer.Binary64
