import TableExplorer.Binary64.Rounding

/-!
Decimal numerals.  A `Decimal` is a sign, a whole number of digits and a power of ten.

* `Decimal.ofChars?` reads a numeral: an optional sign, digits with at most one point among or
  around them, and an optional power of ten after `e`.
* `Decimal.toBinary64` is the nearest binary64 number.
-/

namespace TableExplorer

/-- The number `± digits * 10 ^ exponent`. -/
structure Decimal where
  negative : Bool
  digits : Nat
  exponent : Int
  deriving DecidableEq, Repr

namespace Decimal

/-- The value of one ASCII digit. -/
def digitValue (c : Char) : Nat := c.toNat - '0'.toNat

/-- The number that a run of ASCII digits denotes. -/
def digitsValue (cs : List Char) : Nat := cs.foldl (fun n c => n * 10 + digitValue c) 0

/-- How many decimal digits a positive number has. -/
def digitCount (n : Nat) : Nat := (Nat.toDigits 10 n).length

/-- The number nearest to a decimal.  Outside `10 ^ -330` to `10 ^ 310` the answer is zero or an
infinity whatever the digits. -/
def toBinary64 (d : Decimal) : Binary64 :=
  let lead := d.exponent + digitCount d.digits
  if d.digits = 0 then .finite d.negative .zero
  else if lead > 310 then .infinite d.negative
  else if lead < -330 then .finite d.negative .zero
  else
    .ofRatio d.negative (d.digits * Nat.pow 10 d.exponent.toNat) (Nat.pow 10 (-d.exponent).toNat)

/-- Splits off a leading sign. -/
def splitSign : List Char → Bool × List Char
  | '-' :: rest => (true, rest)
  | '+' :: rest => (false, rest)
  | cs => (false, cs)

/-- The power of ten after the digits: nothing, or `e` with an optional sign and digits. -/
def readExponent? : List Char → Option Int
  | [] => some 0
  | c :: rest =>
    if c = 'e' ∨ c = 'E' then
      let (negative, digits) := splitSign rest
      if digits.isEmpty || !digits.all Char.isDigit then none
      else some (if negative then -(digitsValue digits : Int) else digitsValue digits)
    else none

/-- The digits after the point, if there is one, and what follows them. -/
def splitFraction : List Char → List Char × List Char
  | '.' :: rest => rest.span Char.isDigit
  | cs => ([], cs)

/-- Reads a whole text as one numeral. -/
def ofChars? (cs : List Char) : Option Decimal := do
  let (negative, unsigned) := splitSign cs
  let (whole, afterWhole) := unsigned.span Char.isDigit
  let (fraction, rest) := splitFraction afterWhole
  if whole.isEmpty && fraction.isEmpty then none
  let exponent ← readExponent? rest
  return ⟨negative, digitsValue (whole ++ fraction), exponent - fraction.length⟩

end Decimal

end TableExplorer
