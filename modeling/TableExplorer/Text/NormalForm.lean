import TableExplorer.Text.CombiningClass
import TableExplorer.Text.Decomposition

/-!
The canonical decomposition of a text.  Every character is decomposed, and then each run of
characters with a non-zero combining class is put into the order of the classes, characters of one
class keeping their order.
-/

namespace TableExplorer.Text

/-- Puts a character before the first one of a greater class, but behind all of class zero. -/
def insertByClass (c : Char) : List Char → List Char
  | [] => [c]
  | d :: rest =>
    if combiningClass d ≠ 0 ∧ combiningClass d < combiningClass c then d :: insertByClass c rest
    else c :: d :: rest

/-- Orders the marks of each letter by their classes. -/
def orderMarks : List Char → List Char
  | [] => []
  | c :: rest =>
    if combiningClass c = 0 then c :: orderMarks rest else insertByClass c (orderMarks rest)

/-- The canonical decomposition of a text. -/
def decompose (cs : List Char) : List Char := orderMarks (cs.flatMap decomposeChar)

end TableExplorer.Text
