import TableExplorer.Dataset.Affinity
import TableExplorer.Dataset.Cell

/-!
Collations: how a column compares texts.  A column that declares no collation compares them by their
bytes; it may declare that ASCII letters are compared whatever their case, or that spaces at the end
do not count.  Cells are compared by their keys, so a collation only says what the key of a text is.
-/

namespace TableExplorer

/-- How a column compares texts. -/
inductive Collation where
  | binary
  | nocase
  | rtrim
  deriving DecidableEq, Repr, Inhabited

namespace Collation

/-- The collation of this name. -/
def ofName? (name : String) : Option Collation :=
  if sameName name "binary" then some .binary
  else if sameName name "nocase" then some .nocase
  else if sameName name "rtrim" then some .rtrim
  else none

/-- An ASCII letter in lower case; any other byte as it is. -/
def lowerByte (b : UInt8) : UInt8 := if 0x41 ≤ b ∧ b ≤ 0x5A then b + 0x20 else b

/-- Bytes with their ASCII letters in lower case.  Behind a NUL byte only the number of bytes
counts. -/
def lowerBytes : List UInt8 → List UInt8
  | [] => []
  | b :: rest => if b = 0 then 0 :: rest.map fun _ => 0 else lowerByte b :: lowerBytes rest

/-- Bytes without the spaces at their end. -/
def trimRight (bytes : List UInt8) : List UInt8 :=
  (bytes.reverse.dropWhile (· == 0x20)).reverse

/-- What a cell is compared by; only texts are compared by something else than themselves. -/
def key : Collation → Cell → Cell
  | .nocase, .text bytes => .text ⟨(lowerBytes bytes.toList).toArray⟩
  | .rtrim, .text bytes => .text ⟨(trimRight bytes.toList).toArray⟩
  | _, cell => cell

end Collation

end TableExplorer
