/-!
Patterns of texts.  In a pattern `%` stands for any characters and `_` for any one character; every
other character stands for itself, whatever the case of an ASCII letter.  A character behind the
escape character stands for itself even if it is one of these.

* `Pattern.ofText?` reads a pattern; one that ends in the escape character matches nothing.
* `Pattern.accepts` matches a text.  A text ends at its first NUL character.

Left out is that a store reads the two characters U+FFFE and U+FFFF, which no text should have, as
the replacement character U+FFFD, so that it takes the three for one; here they differ.
-/

namespace TableExplorer

/-- One item of a pattern. -/
inductive PatternItem where
  | anyText
  | anyChar
  | literal (c : Char)
  deriving DecidableEq, Repr

/-- A pattern is a sequence of items. -/
abbrev Pattern := List PatternItem

namespace Pattern

/-- Reads a pattern in which `escape?`, if there is one, makes the next character literal. -/
def ofText? (escape? : Option Char) : List Char → Option Pattern
  | [] => some []
  | [c] =>
    if escape? = some c then none
    else if c = '%' then some [.anyText]
    else if c = '_' then some [.anyChar]
    else some [.literal c]
  | c :: d :: rest =>
    if escape? = some c then (.literal d :: ·) <$> ofText? escape? rest
    else if c = '%' then (.anyText :: ·) <$> ofText? escape? (d :: rest)
    else if c = '_' then (.anyChar :: ·) <$> ofText? escape? (d :: rest)
    else (.literal c :: ·) <$> ofText? escape? (d :: rest)

/-- The characters are the same but for the case of an ASCII letter. -/
def sameLetter (a b : Char) : Bool := a.toLower == b.toLower

/-- Some part of the text from some place to the end is accepted. -/
def someSuffix (accept : List Char → Bool) : List Char → Bool
  | [] => accept []
  | c :: rest => accept (c :: rest) || someSuffix accept rest

/-- Matches a whole text. -/
def matchesChars : Pattern → List Char → Bool
  | [], cs => cs.isEmpty
  | .anyText :: items, cs => someSuffix (matchesChars items) cs
  | .anyChar :: _, [] => false
  | .anyChar :: items, _ :: rest => matchesChars items rest
  | .literal _ :: _, [] => false
  | .literal c :: items, d :: rest => sameLetter c d && matchesChars items rest

/-- The part of a text before its first NUL character. -/
def beforeNul (cs : List Char) : List Char := cs.takeWhile (· != '\x00')

/-- The text matches the pattern with this text. -/
def accepts (escape? : Option Char) (pattern : String) (text : String) : Bool :=
  match ofText? escape? pattern.toList with
  | some items => matchesChars items (beforeNul text.toList)
  | none => false

end Pattern

end TableExplorer
