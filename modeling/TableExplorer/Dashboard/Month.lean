import TableExplorer.Numeral.Decimal
import TableExplorer.Text.Blank

/-!
Months.  A month is read from a key of a year, a hyphen and a month number; blanks may stand before
each number, and the year may have a sign, without which it has at most four digits.
-/

namespace TableExplorer

/-- A month of a year. -/
structure Month where
  year : Int
  month : Nat
  deriving DecidableEq, Repr, Inhabited

namespace Month

/-- Reads the digits at the start of a text, at most `width` of them if there is a width. -/
def readNumber? (width? : Option Nat) (cs : List Char) : Option (Nat × List Char) :=
  let digits := cs.takeWhile Char.isDigit
  let digits := match width? with
    | some width => digits.take width
    | none => digits
  if digits.isEmpty then none else some (Decimal.digitsValue digits, cs.drop digits.length)

/-- Reads a year, behind blanks. -/
def readYear? (cs : List Char) : Option (Int × List Char) :=
  match cs.dropWhile Text.isBlank with
  | '-' :: rest => (readNumber? none rest).map fun (n, rest) => (-(n : Int), rest)
  | '+' :: rest => (readNumber? none rest).map fun (n, rest) => ((n : Int), rest)
  | cs => (readNumber? (some 4) cs).map fun (n, rest) => ((n : Int), rest)

/-- The month that a key denotes, if it is one of the twelve. -/
def ofKey? (key : String) : Option Month := do
  match ← readYear? key.toList with
  | (year, '-' :: rest) =>
    let (month, rest) ← readNumber? (some 2) (rest.dropWhile Text.isBlank)
    if rest.isEmpty ∧ 1 ≤ month ∧ month ≤ 12 then some ⟨year, month⟩ else none
  | _ => none

/-- The digits of a number, with zeros in front up to a width. -/
def padded (width n : Nat) : List Char :=
  let digits := Nat.toDigits 10 n
  List.replicate (width - digits.length) '0' ++ digits

/-- The year in four digits; a year before the year zero, or of more digits, has its sign. -/
def yearText (year : Int) : List Char :=
  if year < 0 then '-' :: padded 4 year.natAbs
  else if year ≤ 9999 then padded 4 year.natAbs
  else '+' :: padded 4 year.natAbs

/-- The year, a hyphen, and the month in two digits. -/
def text (m : Month) : String := String.ofList (yearText m.year ++ '-' :: padded 2 m.month)

end Month

end TableExplorer
