import TableExplorer.Amount.Style
import TableExplorer.Dataset.Value
import TableExplorer.Text.Fold

/-!
The functions that statements may call on cells, and the pieces of cast texts that they take.

* `Cell.folded`: the folded text of a cell; nothing is the empty text.
* `Cell.amount?`: the number that a cell denotes under a number style.
* `Cell.castFolded`: the folded text of a cell cast to text, which is what a search looks into.
* `lastPiece`: characters of a text counted from its end.
-/

namespace TableExplorer

namespace Cell

/-- The folded text of a cell. -/
def folded (cell : Cell) : String := Text.fold cell.read.display

/-- The folded text of a cell cast to text. -/
def castFolded (cell : Cell) : String :=
  match cell.castText? with
  | some bytes => Text.fold (Text.Utf8.decode bytes)
  | none => ""

/-- The number of a cell: numbers are themselves, and texts are read in the style. -/
def amount? (style : AmountStyle) : Cell → Option Binary64
  | .integer i => some (.ofInt i.toInt)
  | .real x => some x
  | .text bytes => style.read? (Text.Utf8.decode bytes)
  | .null => none
  | .blob _ => none

/-- The number of a cell as a cell. -/
def amountCell (style : AmountStyle) (cell : Cell) : Cell :=
  match cell.amount? style with
  | some x => .real x
  | none => .null

/-- The style that a cell names by its tag. -/
def style : Cell → AmountStyle
  | .text bytes => .ofTag (Text.Utf8.decode bytes)
  | _ => .text

end Cell

/-- The byte continues a character that began before it. -/
def continuesCharacter (b : UInt8) : Bool := 0x80 ≤ b && b < 0xC0

/-- The bytes at the start of a text that continue a character, and the characters behind them.  A
byte from 0xC0 on is a character with all bytes that continue it, and any other byte is one alone; a
text ends at its first NUL. -/
def splitCharacters : List UInt8 → List UInt8 × List (List UInt8)
  | [] => ([], [])
  | b :: rest =>
    let (more, characters) := splitCharacters rest
    if b = 0 then ([], [])
    else if continuesCharacter b then (b :: more, characters)
    else if 0xC0 ≤ b then ([], (b :: more) :: characters)
    else ([], [b] :: (more.map fun c => [c]) ++ characters)

/-- The bytes of a text as characters; at its start, bytes that continue none are one each. -/
def byteCharacters (bytes : List UInt8) : List (List UInt8) :=
  let (more, characters) := splitCharacters bytes
  (more.map fun c => [c]) ++ characters

/-- So many characters from the place that lies `back` characters before the end; of a text that
starts later, what is left of the piece. -/
def lastPiece (back count : Nat) (bytes : ByteArray) : List UInt8 :=
  let characters := byteCharacters bytes.toList
  let missing := back - characters.length
  ((characters.drop (characters.length - back)).take (count - missing)).flatten

end TableExplorer
