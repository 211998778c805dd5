import TableExplorer.Json.Basic
import TableExplorer.Word

/-!
What a JSON value means to somebody who expects a value of a certain kind.  Each decoder either
takes the value or has nothing to say about it.

A record of named fields may be given as an object, in which unknown names are ignored and known
ones may occur once, or as an array of the fields in their order, of which the last may be missing.
-/

namespace TableExplorer.Json

/-- Takes a truth value. -/
def toBool? : Json → Option Bool
  | .bool b => some b
  | _ => none

/-- Takes a string. -/
def toString? : Json → Option String
  | .string s => some s
  | _ => none

/-- Takes a size: an integer that 64 bits hold without a sign. -/
def toSize? : Json → Option Nat
  | .integer i => Word.size? i
  | _ => none

/-- Takes an integer that 64 bits hold with a sign. -/
def toInt64? : Json → Option Int64
  | .integer i => Word.int64? i
  | _ => none

/-- Takes nothing, or what another decoder takes. -/
def toOption? {α : Type} (decode : Json → Option α) : Json → Option (Option α)
  | .null => some none
  | json => some <$> decode json

/-- Takes an array of what another decoder takes. -/
def toList? {α : Type} (decode : Json → Option α) : Json → Option (List α)
  | .array items => items.mapM decode
  | _ => none

/-- Takes an array of strings. -/
def toStrings? : Json → Option (List String) := toList? toString?

/-- The fields of a record that are given. -/
abbrev Fields := List (String × Json)

/-- Takes a record with fields of these names. -/
def toFields? (names : List String) : Json → Option Fields
  | .object members =>
    let known := members.filter fun member => names.contains member.1
    if (known.map (·.1)).Nodup then some known else none
  | .array items => if items.length ≤ names.length then some (names.zip items) else none
  | _ => none

namespace Fields

/-- The field of a name that may be missing. -/
def optional {α : Type} (fields : Fields) (name : String) (decode : Json → Option α)
    (default : α) : Option α :=
  match fields.lookup name with
  | some json => decode json
  | none => some default

/-- The field of a name that must be given. -/
def required {α : Type} (fields : Fields) (name : String) (decode : Json → Option α) :
    Option α := do
  decode (← fields.lookup name)

end Fields

end TableExplorer.Json
