import TableExplorer.Amount.Pattern
import TableExplorer.Numeral.Decimal
import TableExplorer.Text.Blank

/-!
Reading amounts.  A reading is a finite number, or nothing.

* `readEuro?` takes only texts of the euro pattern.
* `readLocale?` takes blanks and currency signs away, tries the euro pattern and then judges by the
  separators: of two kinds the later one is the decimal separator; a single kind is decimal if
  exactly two digits follow its last occurrence, and groups thousands otherwise.
* `readPlain?` takes blanks and currency signs away and reads a decimal numeral.
-/

namespace TableExplorer.Amount

open Text (isBlank trimEnds)

/-- The signs of the euro, the dollar, the pound and the yen. -/
def isCurrencySign (c : Char) : Bool := c == '€' || c == '$' || c == '£' || c == '¥'

/-- The text without blanks and currency signs. -/
def stripDecorations (cs : List Char) : List Char :=
  cs.filter fun c => !isBlank c && !isCurrencySign c

/-- The finite number that a numeral denotes. -/
def readFinite? (cs : List Char) : Option Binary64 := do
  let number := (← Decimal.ofChars? cs).toBinary64
  if number.isFinite then some number else none

/-- The text with its points taken out and its commas made points. -/
def commaToPoint (cs : List Char) : List Char :=
  (cs.filter (· != '.')).map fun c => if c = ',' then '.' else c

/-- The number that a text of the euro pattern denotes, blanks around it allowed. -/
def readEuroChars? (cs : List Char) : Option Binary64 :=
  let trimmed := trimEnds isBlank cs
  if isEuro trimmed then readFinite? (commaToPoint trimmed) else none

/-- What stands before and behind the last occurrence of a character. -/
def splitAtLast? (c : Char) (cs : List Char) : Option (List Char × List Char) :=
  match cs.reverse.span (· != c) with
  | (_, []) => none
  | (after, _ :: before) => some (before.reverse, after.reverse)

/-- The numeral meant by a text whose only separator last stands between `before` and `after`. -/
def resolveSeparator (separator : Char) (before after : List Char) : List Char :=
  let whole := before.filter (· != separator)
  if after.length = 2 ∧ after.all Char.isDigit then whole ++ '.' :: after else whole ++ after

/-- The numeral meant by an undecorated text, by its separators. -/
def resolveSeparators (cs : List Char) : List Char :=
  match splitAtLast? '.' cs, splitAtLast? ',' cs with
  | none, none => cs
  | some (before, after), none => resolveSeparator '.' before after
  | none, some (before, after) => resolveSeparator ',' before after
  | some (_, afterPoint), some (_, afterComma) =>
    if afterComma.length < afterPoint.length then commaToPoint cs else cs.filter (· != ',')

/-- The number that a list of characters denotes in the euro convention or by its separators. -/
def readLocaleChars? (cs : List Char) : Option Binary64 :=
  let stripped := stripDecorations cs
  match readEuroChars? stripped with
  | some number => some number
  | none => readFinite? (resolveSeparators stripped)

/-- The number that a text of the euro pattern denotes. -/
def readEuro? (s : String) : Option Binary64 := readEuroChars? s.toList

/-- The number that a text denotes in the euro convention or by its separators. -/
def readLocale? (s : String) : Option Binary64 := readLocaleChars? s.toList

/-- The number that a text denotes as a numeral with a decimal point. -/
def readPlain? (s : String) : Option Binary64 := readFinite? (stripDecorations s.toList)

end TableExplorer.Amount
