import TableExplorer.Numeral.Decimal

/-!
The fewest digits that read back.  For one digit, two digits and so on, the two decimals of that
length next to the number are tried; the first length at which one of them reads back as the
number wins, and of two the nearer.

* `shortestDigits`: the digits and their power of ten.
* `Binary64.toText`: the positional text, without an exponent and without a point for whole
  numbers.
-/

namespace TableExplorer

/-- A run of digits, as a natural number, and the power of ten it is to be multiplied with. -/
structure ScaledDigits where
  digits : Nat
  exponent : Int
  deriving DecidableEq, Repr

/-- Moves trailing zeros from the digits to the exponent; the fuel is the number of digits. -/
def ScaledDigits.dropZeros : Nat → ScaledDigits → ScaledDigits
  | 0, s => s
  | fuel + 1, s =>
    if s.digits ≠ 0 ∧ s.digits % 10 = 0 then dropZeros fuel ⟨s.digits / 10, s.exponent + 1⟩ else s

/-- Of two neighbours the one that passes a test; if both pass it, the preferred one. -/
def ScaledDigits.choose? (test : ScaledDigits → Bool) (below above preferred : ScaledDigits) :
    Option ScaledDigits :=
  match test below, test above with
  | false, false => none
  | true, false => some below
  | false, true => some above
  | true, true => some preferred

namespace Binary64

/-- The magnitude as a fraction of `10 ^ grid`. -/
def Magnitude.onGrid (m : Magnitude) (grid : Int) : Nat × Nat :=
  (m.quanta * Nat.pow 10 (-grid).toNat, quantaPerUnit * Nat.pow 10 grid.toNat)

/-- The least `k` with the magnitude below `10 ^ k`, for a positive magnitude. -/
def Magnitude.decimalScale (m : Magnitude) : Int :=
  (Decimal.digitCount (m.quanta * Nat.pow 10 330 / quantaPerUnit) : Int) - 330

/-- The digits read as a decimal give the magnitude. -/
def Magnitude.isReadFrom (m : Magnitude) (s : ScaledDigits) : Bool :=
  roundToQuanta (s.digits * Nat.pow 10 s.exponent.toNat * quantaPerUnit)
      (Nat.pow 10 (-s.exponent).toNat)
    = m.quanta

/-- The decimal with its last digit at `10 ^ grid` that reads back and is nearest, if there is
one. -/
def Magnitude.nearestOnGrid? (tie : Tie) (m : Magnitude) (grid : Int) : Option ScaledDigits :=
  let (num, den) := m.onGrid grid
  ScaledDigits.choose? m.isReadFrom ⟨num / den, grid⟩ ⟨num / den + 1, grid⟩
    ⟨roundQuotient tie num den, grid⟩

/-- The fewest digits that read back, without trailing zeros.  Seventeen digits always do. -/
def Magnitude.shortestDigits (tie : Tie) (m : Magnitude) : ScaledDigits :=
  let scale := m.decimalScale
  let grids := (List.range 17).map fun (length : Nat) => scale - ((length : Int) + 1)
  let found := grids.findSome? (m.nearestOnGrid? tie)
  let (num, den) := m.onGrid (scale - 17)
  (found.getD ⟨roundQuotient tie num den, scale - 17⟩).dropZeros 17

end Binary64

/-- The digits without an exponent: a whole part, and a fraction that may be empty. -/
def ScaledDigits.positional (s : ScaledDigits) : List Char × List Char :=
  let digits := Nat.toDigits 10 s.digits
  if 0 ≤ s.exponent then (digits ++ List.replicate s.exponent.toNat '0', [])
  else
    let places := (-s.exponent).toNat
    let padded := List.replicate (places + 1 - digits.length) '0' ++ digits
    (padded.take (padded.length - places), padded.drop (padded.length - places))

namespace Binary64

/-- The sign of a text: a minus for the negative. -/
def signText (negative : Bool) : String := if negative then "-" else ""

/-- The text of a number: its shortest digits, positionally, a half going up; whole numbers have
no point. -/
def toText : Binary64 → String
  | .nan => "NaN"
  | .infinite negative => signText negative ++ "inf"
  | .finite negative m =>
    if m.quanta = 0 then signText negative ++ "0"
    else
      match (m.shortestDigits .awayFromZero).positional with
      | (whole, []) => signText negative ++ String.ofList whole
      | (whole, fraction) => signText negative ++ String.ofList (whole ++ '.' :: fraction)

end Binary64

end TableExplorer
