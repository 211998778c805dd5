import TableExplorer.Dataset.Cell
import TableExplorer.Numeral.Decimal
import TableExplorer.Word

/-!
Affinities: what a column's declared type does to the cells that are put into it.

* `Affinity.ofType` finds the affinity by what the declared type contains.
* `Affinity.apply` converts a cell: numbers to text, or text that reads as a number to a number,
  where the affinity asks for it and nothing is lost.  Blobs are never converted.

A text with a point or an exponent is read as the real nearest to it.  A store comes to it by
arithmetic of limited precision, and for some texts of sixteen digits or more to a neighbour of it.
-/

namespace TableExplorer

/-- How the cells of a column like to be stored. -/
inductive Affinity where
  | blob
  | text
  | numeric
  | integer
  | real
  deriving DecidableEq, Repr

/-- The ASCII letters of a text in lower case. -/
def asciiLower (cs : List Char) : List Char := cs.map Char.toLower

/-- Two names are the same but for the case of ASCII letters. -/
def sameName (a b : String) : Bool := asciiLower a.toList == asciiLower b.toList

/-- The characters `part` occur in the characters `whole`. -/
def occursIn (part : List Char) : List Char → Bool
  | [] => part.isEmpty
  | c :: rest => part.isPrefixOf (c :: rest) || occursIn part rest

namespace Affinity

/-- The affinity of a declared type: that of the first of these families it names. -/
def ofType (declared : String) : Affinity :=
  let type := asciiLower declared.toList
  let names (words : List String) : Bool := words.any fun w => occursIn w.toList type
  if names ["int"] then .integer
  else if names ["char", "clob", "text"] then .text
  else if type.isEmpty || names ["blob"] then .blob
  else if names ["real", "floa", "doub"] then .real
  else .numeric

/-- The affinity turns texts into numbers. -/
def isNumeric : Affinity → Bool
  | .numeric | .integer | .real => true
  | _ => false

/-- The blanks that may surround a number in a cell. -/
def isNumberBlank (c : Char) : Bool := c == ' ' || (0x09 ≤ c.toNat && c.toNat ≤ 0x0D)

/-- The integer that a real is, if it is whole and strictly within the range of integers. -/
def wholeReal? (x : Binary64) : Option Int64 := do
  let quanta ← x.scaled?
  let whole := quanta / Binary64.quantaPerUnit
  let i ← Word.int64? whole
  if whole * Binary64.quantaPerUnit = quanta ∧ i ≠ .minValue ∧ i ≠ .maxValue then some i else none

/-- A real as an integer where it is one. -/
def wholeOrReal (x : Binary64) : Cell :=
  match wholeReal? x with
  | some i => .integer i
  | none => .real x

/-- The number that a text reads as: an integer if it has neither point nor exponent and fits, and
otherwise a real, as an integer where it is whole. -/
def readNumber? (bytes : ByteArray) : Option Cell := do
  let cs := Text.trimEnds isNumberBlank (← Text.Utf8.decode? bytes).toList
  let decimal ← Decimal.ofChars? cs
  let digitsOnly := cs.all fun c => c.isDigit || c == '-' || c == '+'
  let value : Int := if decimal.negative then -(decimal.digits : Int) else decimal.digits
  match digitsOnly, Word.int64? value with
  | true, some i => some (.integer i)
  | _, _ => some (wholeOrReal decimal.toBinary64)

/-- A number as a real. -/
def toReal : Cell → Cell
  | .integer i => .real (.ofInt i.toInt)
  | cell => cell

/-- The cell as a numeric affinity stores it. -/
def applyNumeric : Cell → Cell
  | .text bytes => (readNumber? bytes).getD (.text bytes)
  | .real x => wholeOrReal x
  | cell => cell

/-- The cell as a column of this affinity stores it. -/
def apply : Affinity → Cell → Cell
  | .blob, cell => cell
  | .text, .integer i => .ofString (toString i.toInt)
  | .text, .real x => .ofString x.castText
  | .text, cell => cell
  | .real, cell => toReal (applyNumeric cell)
  | _, cell => applyNumeric cell

end Affinity

end TableExplorer
