import TableExplorer.Numeral.Shortest

/-!
Numbers with fifteen significant digits: the text that a real takes when a table casts it to text.
The exact value is rounded to fifteen digits, a half going away from zero; trailing zeros are
dropped, but a point and one decimal always stay, and the exponent form is used from `10 ^ 15` on
and below `10 ^ -4`.

A store comes to the digits by arithmetic of limited precision.  Where the exact value is very close
to the middle between two neighbours, its last digit may be that of the other one; here it is that
of the exact value.
-/

namespace TableExplorer

/-- The exponent of ten in two digits or more, with its sign. -/
def exponentText (e : Int) : List Char :=
  let digits := Nat.toDigits 10 e.natAbs
  (if e < 0 then '-' else '+') :: (List.replicate (2 - digits.length) '0' ++ digits)

/-- A fraction that has at least one digit. -/
def atLeastOneDecimal (fraction : List Char) : List Char :=
  if fraction.isEmpty then ['0'] else fraction

namespace Binary64

/-- The magnitude in at most fifteen significant digits, without trailing zeros. -/
def Magnitude.fifteenDigits (m : Magnitude) : ScaledDigits :=
  let grid := m.decimalScale - 15
  let (num, den) := m.onGrid grid
  ScaledDigits.dropZeros 16 ⟨roundQuotient .awayFromZero num den, grid⟩

/-- The text of a positive magnitude in fifteen significant digits. -/
def Magnitude.castText (m : Magnitude) : List Char :=
  let s := m.fifteenDigits
  let digits := Nat.toDigits 10 s.digits
  let lead := s.exponent + digits.length - 1
  if -4 ≤ lead ∧ lead < 15 then
    let (whole, fraction) := s.positional
    whole ++ '.' :: atLeastOneDecimal fraction
  else
    digits.take 1 ++ '.' :: atLeastOneDecimal (digits.drop 1) ++ 'e' :: exponentText lead

/-- The text of a real cast to text. -/
def castText : Binary64 → String
  | .nan => ""
  | .infinite negative => signText negative ++ "Inf"
  | .finite negative m =>
    if m.quanta = 0 then "0.0" else signText negative ++ String.ofList m.castText

end Binary64

end TableExplorer
