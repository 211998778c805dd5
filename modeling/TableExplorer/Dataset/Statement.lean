import TableExplorer.Dataset.Store
import TableExplorer.Identifier
import TableExplorer.Word

/-!
What a statement needs before it can read rows, and how it fails.

* `Contents.source` is the relation that a statement on a table reads, if its records can be read.
* `checkLimit` refuses limits that are too large for a statement.
-/

namespace TableExplorer

/-- The relation that a statement on a table reads, if its records can be read. -/
def Contents.source (contents : Contents) (table : Identifier) : Result Relation :=
  match contents with
  | .unreadable => .error (.query "file is not a database")
  | .dataset d =>
    match d.relation? table.name with
    | some rel =>
      match rel.failure? with
      | none => .ok rel
      | some detail => .error (.query detail)
    | none => .error (.query ("no such table: " ++ table.name))

/-- Refuses limits that are too large for a statement. -/
def checkLimit (limit : Nat) : Result Unit :=
  if limit < Word.signedBound then .ok () else .error (.query "datatype mismatch")

end TableExplorer
