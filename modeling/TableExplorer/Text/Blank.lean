/-!
Blanks: the characters of the Unicode property White_Space, and the texts cut at them.

* `trim` drops the blanks at both ends of a text.
* `words` are the maximal runs without a blank.
-/

namespace TableExplorer.Text

/-- The character is white space. -/
def isBlank (c : Char) : Bool :=
  let n := c.toNat
  (0x09 ≤ n && n ≤ 0x0D) || n == 0x20 || n == 0x85 || n == 0xA0 || n == 0x1680 ||
    (0x2000 ≤ n && n ≤ 0x200A) || n == 0x2028 || n == 0x2029 || n == 0x202F || n == 0x205F ||
    n == 0x3000

/-- Drops the items at both ends of which `p` holds. -/
def trimEnds {α : Type} (p : α → Bool) (cs : List α) : List α :=
  ((cs.dropWhile p).reverse.dropWhile p).reverse

/-- The text without the blanks at its ends. -/
def trim (s : String) : String := String.ofList (trimEnds isBlank s.toList)

/-- The words of a text, with the word under way reversed. -/
def wordsFrom (current : List Char) : List Char → List (List Char)
  | [] => if current.isEmpty then [] else [current.reverse]
  | c :: rest =>
    if isBlank c then
      if current.isEmpty then wordsFrom [] rest else current.reverse :: wordsFrom [] rest
    else wordsFrom (c :: current) rest

/-- The words of a text. -/
def words (s : String) : List (List Char) := wordsFrom [] s.toList

end TableExplorer.Text
