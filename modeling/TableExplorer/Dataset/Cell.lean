import TableExplorer.Numeral.Significant
import TableExplorer.Text.Blank
import TableExplorer.Text.Utf8

/-!
Stored cells.  Columns are loosely typed: whatever a column declares, each cell has a storage class
of its own.

* `Cell`: nothing, an integer, a real, a text or a blob; texts and blobs are bytes.
* `Cell.compare`: the order of cells: nothing, then numbers by value, then texts, then blobs, both
  by their bytes.
* `Cell.castText?`: the text that statements see, with reals in fifteen digits.
-/

namespace TableExplorer

/-- A stored cell. -/
inductive Cell where
  | null
  | integer (value : Int64)
  | real (value : Binary64)
  | text (bytes : ByteArray)
  | blob (bytes : ByteArray)

instance : Inhabited Cell := ⟨.null⟩

namespace Cell

/-- The text cell with these characters. -/
def ofString (s : String) : Cell := .text s.toUTF8

/-- There is nothing in the cell. -/
def isNull : Cell → Bool
  | .null => true
  | _ => false

/-- The place of a storage class in the order of cells. -/
def rank : Cell → Nat
  | .null => 0
  | .integer _ => 1
  | .real _ => 1
  | .text _ => 2
  | .blob _ => 3

/-- An integer in quanta, to be compared with reals. -/
def integerQuanta (i : Int64) : Int := i.toInt * Binary64.quantaPerUnit

/-- A real in quanta; not-a-number is never stored. -/
def realQuanta (x : Binary64) : Int := x.scaled?.getD 0

/-- The order of cells. -/
def compare : Cell → Cell → Ordering
  | .integer i, .integer j => Ord.compare i.toInt j.toInt
  | .integer i, .real y => Ord.compare (integerQuanta i) (realQuanta y)
  | .real x, .integer j => Ord.compare (realQuanta x) (integerQuanta j)
  | .real x, .real y => Ord.compare (realQuanta x) (realQuanta y)
  | .text a, .text b => Text.Utf8.compareBytes a b
  | .blob a, .blob b => Text.Utf8.compareBytes a b
  | a, b => Ord.compare a.rank b.rank

/-- The bytes that a cell has when it is cast to text. -/
def castText? : Cell → Option ByteArray
  | .null => none
  | .integer i => some (toString i.toInt).toUTF8
  | .real x => some x.castText.toUTF8
  | .text bytes => some bytes
  | .blob bytes => some bytes

/-- The bytes without the spaces at both ends. -/
def trimSpaces (bytes : ByteArray) : ByteArray :=
  ⟨(Text.trimEnds (· == 0x20) bytes.toList).toArray⟩

/-- The bytes of a cell cast to text, without the spaces at both ends. -/
def trimmedText? (cell : Cell) : Option ByteArray := cell.castText?.map trimSpaces

end Cell

end TableExplorer
