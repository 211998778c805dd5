import TableExplorer.Error

/-!
Names of tables and columns as they stand in statements.  An `Identifier` is a name that may be
written between double quotes; every quote inside it is doubled there, so that no name can end
early (`Identifier.quoted`).  Search texts are checked here as well, and `escapePattern` makes a
text stand for itself in a pattern.
-/

namespace TableExplorer

/-- A NUL character cannot be written in a statement. -/
def hasNul (s : String) : Bool := s.toList.contains '\x00'

namespace Identifier

/-- The longest name, in bytes. -/
def maxBytes : Nat := 1024

/-- Why a name cannot be written. -/
inductive Fault where
  | empty
  | tooLong
  | nul
  deriving DecidableEq, Repr

/-- The text that tells why a name cannot be written. -/
def Fault.message : Fault → String
  | .empty => "SQL identifier cannot be empty"
  | .tooLong => "SQL identifier too long (max " ++ toString maxBytes ++ " bytes)"
  | .nul => "SQL identifier cannot contain null bytes"

/-- What is wrong with a name, the first fault first. -/
def fault? (name : String) : Option Fault :=
  if name.isEmpty then some .empty
  else if maxBytes < name.utf8ByteSize then some .tooLong
  else if hasNul name then some .nul
  else none

end Identifier

/-- A name that may be written in a statement. -/
structure Identifier where
  name : String
  valid : Identifier.fault? name = none

namespace Identifier

/-- The identifier with this name. -/
def ofName (name : String) : Result Identifier :=
  match h : fault? name with
  | none => .ok ⟨name, h⟩
  | some fault => .error (.security fault.message)

/-- The characters with every double quote written twice. -/
def doubleQuotes (cs : List Char) : List Char :=
  cs.flatMap fun c => if c = '"' then ['"', '"'] else [c]

/-- The name between double quotes. -/
def quoted (id : Identifier) : String :=
  "\"" ++ String.ofList (doubleQuotes id.name.toList) ++ "\""

end Identifier

/-- The longest search text, in bytes. -/
def maxSearchBytes : Nat := 1000

/-- Refuses search texts that are too long or hold a NUL character. -/
def checkSearchText (s : String) : Result Unit :=
  if maxSearchBytes < s.utf8ByteSize then
    .error (.security ("search text too long: " ++ toString s.utf8ByteSize ++ " bytes (max " ++
      toString maxSearchBytes ++ ")"))
  else if hasNul s then .error (.security "search text cannot contain null bytes")
  else .ok ()

/-- Puts a backslash before every character that a pattern would not take literally. -/
def escapePattern (cs : List Char) : List Char :=
  cs.flatMap fun c => if c = '%' ∨ c = '_' ∨ c = '\\' then ['\\', c] else [c]

end TableExplorer
