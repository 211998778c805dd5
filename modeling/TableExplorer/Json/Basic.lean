import TableExplorer.Binary64.Basic

/-!
JSON values.  An object is a sequence of named values in the order in which they are written, so a
name may occur twice.  A text may be well-formed and still have no value, such as a number that is
too large; it is `unreadable`, and does no harm where nobody looks at it.
-/

namespace TableExplorer

/-- A JSON value. -/
inductive Json where
  | null
  | bool (value : Bool)
  | integer (value : Int)
  | real (value : Binary64)
  | string (value : String)
  | array (items : List Json)
  | object (members : List (String × Json))
  | unreadable
  deriving Inhabited

namespace Json

/-- The string, or nothing. -/
def ofString? : Option String → Json
  | some s => .string s
  | none => .null

/-- The number, or nothing. -/
def ofReal? : Option Binary64 → Json
  | some x => .real x
  | none => .null

/-- A count. -/
def ofNat (n : Nat) : Json := .integer n

/-- Some strings. -/
def ofStrings (items : List String) : Json := .array (items.map .string)

end Json

end TableExplorer
