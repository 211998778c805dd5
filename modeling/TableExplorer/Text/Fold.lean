import TableExplorer.Text.Lowercase
import TableExplorer.Text.Mark
import TableExplorer.Text.NormalForm

/-!
Folding: texts that differ in accents and case only have one folded form.  `fold` decomposes the
text, drops its combining marks and takes the lower case of what is left, character by character.
-/

namespace TableExplorer.Text

/-- Folds a list of characters. -/
def foldChars (cs : List Char) : List Char :=
  ((decompose cs).filter fun c => !isMark c).flatMap lowerChar

/-- The text without accents and case. -/
def fold (s : String) : String := String.ofList (foldChars s.toList)

end TableExplorer.Text
