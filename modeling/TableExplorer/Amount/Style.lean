import TableExplorer.Amount.Reading

/-!
Number styles: whether a column holds amounts, and how they are written.  A style is found by
counting how many of some sample texts follow each pattern (`AmountStyle.classify`); it then says
how the column's texts are read as numbers (`AmountStyle.read?`).
-/

namespace TableExplorer

/-- How the amounts of a column are written, if it holds amounts. -/
inductive AmountStyle where
  | text
  | euro
  | plainDot
  deriving DecidableEq, Repr, Inhabited

namespace AmountStyle

/-- The style has numbers. -/
def isNumeric : AmountStyle → Bool
  | .text => false
  | _ => true

/-- The name of the style in answers. -/
def name : AmountStyle → String
  | .text => "none"
  | .euro => "thousands_dot_decimal_comma"
  | .plainDot => "plain_dot"

/-- The tag of a numeric style in statements. -/
def tag? : AmountStyle → Option String
  | .text => none
  | .euro => some "euro"
  | .plainDot => some "dot"

/-- The style with this tag; any other tag stands for text. -/
def ofTag (tag : String) : AmountStyle :=
  if tag = "euro" then .euro else if tag = "dot" then .plainDot else .text

/-- The number that a text denotes in this style. -/
def read? : AmountStyle → String → Option Binary64
  | .text, _ => none
  | .euro, s => Amount.readLocale? s
  | .plainDot, s => Amount.readPlain? s

/-- The style that most samples follow.  A tie is for the euro style, in which short whole numbers
are written as well. -/
def classify (samples : List String) : AmountStyle :=
  let trimmed := samples.map fun s => Text.trimEnds Text.isBlank s.toList
  let euro := trimmed.countP Amount.isEuro
  let plain := trimmed.countP Amount.isPlainDot
  if euro = 0 ∧ plain = 0 then .text else if plain ≤ euro then .euro else .plainDot

end AmountStyle

end TableExplorer
