import TableExplorer.Json.Basic
import TableExplorer.Numeral.Shortest
import TableExplorer.Binary64.Arithmetic
import TableExplorer.Word

/-!
Numbers in JSON.

* `readNumber?` reads a number at the start of a text.  One without point and exponent is an integer
  if 64 bits hold it.  Any other is read as a real with one rounding for its digits, of which no
  more count than 64 bits hold, and one for each power of ten; a number that is too large for a real
  is unreadable.
* `writeReal` writes the shortest digits that read back, with at least one decimal, and with an
  exponent outside `10 ^ -5` to `10 ^ 16`.
-/

namespace TableExplorer.Json

/-- The parts of a number as they are written. -/
structure NumberParts where
  negative : Bool
  whole : List Char
  /-- The digits behind the point, if there is one. -/
  fraction? : Option (List Char)
  exponent? : Option Int
  deriving Repr

/-- The whole part: a zero, or digits that do not start with one. -/
def readWhole? (cs : List Char) : Option (List Char × List Char) :=
  match cs.span Char.isDigit with
  | ([], _) => none
  | ('0' :: _ :: _, _) => none
  | (digits, rest) => some (digits, rest)

/-- The digits behind a point. -/
def readFraction? : List Char → Option (Option (List Char) × List Char)
  | '.' :: rest =>
    match rest.span Char.isDigit with
    | ([], _) => none
    | (digits, rest) => some (some digits, rest)
  | cs => some (none, cs)

/-- The power of ten. -/
def readPower? : List Char → Option (Option Int × List Char)
  | c :: rest =>
    if c = 'e' ∨ c = 'E' then
      let (negative, rest) := Decimal.splitSign rest
      match rest.span Char.isDigit with
      | ([], _) => none
      | (digits, rest) =>
        let power : Int := Decimal.digitsValue digits
        some (some (if negative then -power else power), rest)
    else some (none, c :: rest)
  | [] => some (none, [])

/-- The parts of the number at the start of a text. -/
def readNumberParts? (cs : List Char) : Option (NumberParts × List Char) := do
  let (negative, cs) := match cs with
    | '-' :: rest => (true, rest)
    | cs => (false, cs)
  let (whole, cs) ← readWhole? cs
  let (fraction?, cs) ← readFraction? cs
  let (exponent?, cs) ← readPower? cs
  return (⟨negative, whole, fraction?, exponent?⟩, cs)

/-- Adds digits to a number while 64 bits hold it; what is left over comes second. -/
def takeDigits (n : Nat) : List Char → Nat × List Char
  | [] => (n, [])
  | c :: rest =>
    let next := n * 10 + Decimal.digitValue c
    if next < Word.bound then takeDigits next rest else (n, c :: rest)

/-- The largest power of ten that is a real. -/
def maxPower : Nat := 308

/-- A power of ten as a real. -/
def tenTo (power : Nat) : Binary64 := .ofRatio false (Nat.pow 10 power) 1

/-- The number times a power of ten, in steps of powers that are reals; nothing if that is too
large. -/
def timesTenTo? (x : Binary64) (power : Int) : Option Binary64 :=
  if _h : power < -maxPower then
    if x = 0 then some x else timesTenTo? (x / tenTo maxPower) (power + maxPower)
  else if power < 0 then some (x / tenTo power.natAbs)
  else if power ≤ maxPower then
    let y := x * tenTo power.natAbs
    if y.isFinite then some y else none
  else if x = 0 then some x else none
termination_by power.natAbs
decreasing_by simp only [maxPower] at *; omega

/-- The real that a number denotes. -/
def NumberParts.real? (n : NumberParts) : Option Binary64 := do
  let (digits, left) := takeDigits 0 n.whole
  let fraction := n.fraction?.getD []
  let (digits, leftFraction) := takeDigits digits fraction
  let power : Int := left.length - (fraction.length - leftFraction.length : Nat)
  let x ← timesTenTo? (.ofInt digits) (power + n.exponent?.getD 0)
  return if n.negative then -x else x

/-- The integer that a number denotes; the negative zero is none. -/
def NumberParts.integer? (n : NumberParts) : Option Int :=
  if n.fraction?.isSome || n.exponent?.isSome then none
  else
    let size := Decimal.digitsValue n.whole
    if n.negative then if 0 < size ∧ size ≤ Word.signedBound then some (-(size : Int)) else none
    else if size < Word.bound then some size else none

/-- The value of a number. -/
def NumberParts.value (n : NumberParts) : Json :=
  match n.integer?, n.real? with
  | some i, _ => .integer i
  | none, some x => .real x
  | none, none => .unreadable

/-- The value of the number at the start of a text, and what follows it. -/
def readNumber? (cs : List Char) : Option (Json × List Char) :=
  (readNumberParts? cs).map fun (n, rest) => (n.value, rest)

/-- The digits of a positive number with an exponent. -/
def writeScientific (digits : List Char) (lead : Int) : List Char :=
  let mantissa := if digits.length ≤ 1 then digits else digits.take 1 ++ '.' :: digits.drop 1
  let sign := if lead < 0 then '-' else '+'
  mantissa ++ 'e' :: sign :: Nat.toDigits 10 lead.natAbs

/-- The text of a positive magnitude. -/
def writeMagnitude (m : Binary64.Magnitude) : List Char :=
  let s := m.shortestDigits .toEven
  let digits := Nat.toDigits 10 s.digits
  let lead := s.exponent + digits.length - 1
  if -5 ≤ lead ∧ lead < 16 then
    let (whole, fraction) := s.positional
    whole ++ '.' :: if fraction.isEmpty then ['0'] else fraction
  else writeScientific digits lead

/-- The text of a real; only finite ones have a text. -/
def writeReal : Binary64 → String
  | .finite negative m =>
    Binary64.signText negative ++
      if m.quanta = 0 then "0.0" else String.ofList (writeMagnitude m)
  | _ => "null"

end TableExplorer.Json
