import TableExplorer.Text.DecimalDigit

/-!
The two ways in which amounts are written in a column, as recognisers of whole texts.

* `isEuro`: one to three digits, groups of three behind points, and decimals behind a comma
  (`12.345,67`).
* `isPlainDot`: digits, and decimals behind a point (`12345.67`).

Both allow a minus in front, and digits of any script; what the digits denote is not their
business.
-/

namespace TableExplorer.Amount

open Text (isDecimalDigit)

/-- The text without a minus in front. -/
def dropMinus : List Char → List Char
  | '-' :: rest => rest
  | cs => cs

/-- A non-empty run of digits and nothing else. -/
def isDigits (cs : List Char) : Bool := !cs.isEmpty && cs.all isDecimalDigit

/-- Groups of three digits, each behind a point, and then nothing or decimals behind a comma. -/
def isEuroTail : List Char → Bool
  | [] => true
  | ',' :: decimals => isDigits decimals
  | '.' :: a :: b :: c :: rest =>
    isDecimalDigit a && isDecimalDigit b && isDecimalDigit c && isEuroTail rest
  | _ => false

/-- The text is written with points between groups of three digits and a decimal comma. -/
def isEuro (cs : List Char) : Bool :=
  let (lead, tail) := (dropMinus cs).span isDecimalDigit
  decide (1 ≤ lead.length ∧ lead.length ≤ 3) && isEuroTail tail

/-- The text is written without grouping and with a decimal point. -/
def isPlainDot (cs : List Char) : Bool :=
  let (lead, tail) := (dropMinus cs).span isDecimalDigit
  !lead.isEmpty &&
    match tail with
    | [] => true
    | c :: decimals => c == '.' && isDigits decimals

end TableExplorer.Amount
