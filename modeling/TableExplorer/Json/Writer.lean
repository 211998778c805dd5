import TableExplorer.Json.Number
import TableExplorer.Json.Quoted

/-!
Writing JSON values, on one line (`Json.compact`) or with a line for each item and member, indented
by two spaces for each level (`Json.pretty`).
-/

namespace TableExplorer.Json

mutual

/-- The value on one line. -/
def compact : Json → String
  | .null => "null"
  | .unreadable => "null"
  | .bool b => if b then "true" else "false"
  | .integer i => toString i
  | .real x => writeReal x
  | .string s => writeQuoted s
  | .array items => "[" ++ ",".intercalate (compactItems items) ++ "]"
  | .object members => "\x7b" ++ ",".intercalate (compactMembers members) ++ "\x7d"

/-- The items of an array, each on one line. -/
def compactItems : List Json → List String
  | [] => []
  | item :: rest => compact item :: compactItems rest

/-- The members of an object, each on one line. -/
def compactMembers : List (String × Json) → List String
  | [] => []
  | (name, value) :: rest => (writeQuoted name ++ ":" ++ compact value) :: compactMembers rest

end

/-- The start of a line at a level. -/
def indent (level : Nat) : String := "\n" ++ String.ofList (List.replicate (2 * level) ' ')

/-- Parts on lines of their own between two brackets; no parts need no line. -/
def bracketed (level : Nat) (opening closing : String) (parts : List String) : String :=
  if parts.isEmpty then opening ++ closing
  else
    opening ++ ",".intercalate (parts.map fun part => indent (level + 1) ++ part) ++ indent level ++
      closing

mutual

/-- The value at a level of indentation. -/
def prettyAt (level : Nat) : Json → String
  | .null => "null"
  | .unreadable => "null"
  | .bool b => if b then "true" else "false"
  | .integer i => toString i
  | .real x => writeReal x
  | .string s => writeQuoted s
  | .array items => bracketed level "[" "]" (prettyItems (level + 1) items)
  | .object members => bracketed level "\x7b" "\x7d" (prettyMembers (level + 1) members)

/-- The items of an array at a level of indentation. -/
def prettyItems (level : Nat) : List Json → List String
  | [] => []
  | item :: rest => prettyAt level item :: prettyItems level rest

/-- The members of an object at a level of indentation. -/
def prettyMembers (level : Nat) : List (String × Json) → List String
  | [] => []
  | (name, value) :: rest =>
    (writeQuoted name ++ ": " ++ prettyAt level value) :: prettyMembers level rest

end

/-- The value with a line for each item and member. -/
def pretty (json : Json) : String := prettyAt 0 json

end TableExplorer.Json
