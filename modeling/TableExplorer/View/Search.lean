import TableExplorer.Dataset.Functions
import TableExplorer.Dataset.Pattern
import TableExplorer.Dataset.Relation
import TableExplorer.Identifier

/-!
Searching a table for a text, whatever its accents and case.

* `Search.ofQuery` checks the text and makes the condition; a blank text has none and finds all.
* `Search.whereClause` and `Search.whereWith` are the condition as it stands in a statement; the
  pattern is bound to it as its one parameter.
* `Search.checkDepth` refuses a condition on so many columns that no statement can have it.
* `Search.matching` are the records that fulfil it.
-/

namespace TableExplorer

/-- How many levels an expression in a statement may have. -/
def maxDepth : Nat := 1000

/-- Some of the columns, cast to text and folded, fits the pattern. -/
structure Condition where
  columns : List Identifier
  pattern : String

/-- A search by the trimmed text of its query, which is empty when everything is to be found. -/
structure Search where
  query : String
  condition? : Option Condition

instance : Inhabited Search := ⟨⟨"", none⟩⟩

namespace Condition

/-- The test of one column as it stands in a statement. -/
def term (column : Identifier) : String :=
  "unaccent_lower(CAST(" ++ column.quoted ++ " AS TEXT)) LIKE ?1 ESCAPE '\\'"

/-- The condition as it stands in a statement. -/
def text (c : Condition) : String := "(" ++ " OR ".intercalate (c.columns.map term) ++ ")"

/-- How many levels the condition has: four in the test of a column, and one more for each further
column. -/
def depth (c : Condition) : Nat := c.columns.length + 3

/-- The cell fits the pattern. -/
def acceptsCell (c : Condition) (cell : Cell) : Bool :=
  Pattern.accepts (some '\\') c.pattern cell.castFolded

/-- The record fulfils the condition, its columns being read as these references. -/
def acceptsAt (c : Condition) (references : List Reference) (record : Record) : Bool :=
  references.any fun reference => c.acceptsCell (reference.cell record)

end Condition

namespace Search

/-- Finds everything. -/
def all : Search := ⟨"", none⟩

/-- The pattern that finds a text anywhere. -/
def patternOf (trimmed : String) : String :=
  "%" ++ String.ofList (escapePattern (Text.fold trimmed).toList) ++ "%"

/-- The search for a query in some columns. -/
def ofQuery (columns : List String) (query : String) : Result Search := do
  checkSearchText query
  let trimmed := Text.trim query
  if trimmed.isEmpty || columns.isEmpty then return .all
  let identifiers ← columns.mapM Identifier.ofName
  return ⟨trimmed, some ⟨identifiers, patternOf trimmed⟩⟩

/-- The search finds everything. -/
def isAll (s : Search) : Bool := s.condition?.isNone

/-- The pattern that is bound to a statement. -/
def pattern? (s : Search) : Option String := s.condition?.map (·.pattern)

/-- The clause that limits a statement to what is found. -/
def whereClause (s : Search) : String :=
  match s.condition? with
  | some c => "WHERE " ++ c.text
  | none => ""

/-- The clause that limits a statement to what is found and fulfils a further condition. -/
def whereWith (s : Search) (extra : String) : String :=
  match s.condition? with
  | some c => "WHERE " ++ c.text ++ " AND (" ++ extra ++ ")"
  | none => "WHERE " ++ extra

/-- How many levels the condition has; none where everything is found. -/
def depth (s : Search) : Nat := (s.condition?.map Condition.depth).getD 0

/-- What is told of a statement that has too many levels. -/
def tooDeepDetail : String := "Expression tree is too large (maximum depth 1000)"

/-- Refuses a search that has too many levels for a statement with so many levels around it. -/
def checkDepth (s : Search) (around : Nat) : Result Unit :=
  if s.depth + around ≤ maxDepth then .ok () else .error (.query tooDeepDetail)

/-- How many columns a statement can search. -/
def maxColumns : Nat := 997

/-- The record of a relation is found. -/
def finds (s : Search) (rel : Relation) (record : Record) : Bool :=
  match s.condition? with
  | some c => c.acceptsAt (c.columns.map fun id => rel.reference id.name) record
  | none => true

/-- The records of a relation that are found, in their order. -/
def matching (s : Search) (rel : Relation) : List Record :=
  match s.condition? with
  | some c =>
    let references := c.columns.map fun id => rel.reference id.name
    rel.records.filter (c.acceptsAt references)
  | none => rel.records

end Search

end TableExplorer
