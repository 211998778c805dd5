import TableExplorer.Config.Basic
import TableExplorer.Dataset.Store
import TableExplorer.Sorting

/-!
The names in a dataset: its tables, its columns, and the tables that hold attachments.

* `Contents.tableNames` lists the tables, `Contents.baseTables` those that hold no attachments.
* `Contents.columns` lists the columns of a table, view or module; no columns means no such table.
* `Contents.attachmentTable?` finds the table that holds the attachments of another.
* `pickColumn?` finds the column that plays a part.
-/

namespace TableExplorer

/-- The first column that has one of the candidate names, earlier candidates first, whatever the
case of letters. -/
def pickColumn? (columns : List String) (candidates : List String) : Option String :=
  candidates.findSome? fun candidate =>
    columns.find? fun column => Text.lowercase column == Text.lowercase candidate

namespace Contents

/-- What is told of a file that is no dataset. -/
def unreadableDetail : String := "file is not a database"

/-- What is told of a view or a module from which nothing can be read. -/
def unreadableNameDetail : String := "nothing can be read under this name"

/-- The dataset, for work that is told as `context` when it fails. -/
def read (context : String) : Contents → Result Dataset
  | .dataset d => .ok d
  | .unreadable => .error (.inContext context unreadableDetail)

/-- The dataset, for a statement on its rows. -/
def open? : Contents → Option Dataset
  | .dataset d => some d
  | .unreadable => none

/-- The pattern of the names that are kept for internal tables. -/
def internalPattern : String := "sqlite_%"

/-- All tables but internal ones, by name. -/
def tableNames (contents : Contents) : Result (List String) := do
  let d ← contents.read "listing tables"
  let names := (d.tables.map (·.name)).filter fun name =>
    !Pattern.accepts none internalPattern name
  return sortBy compareText names

/-- The tables that hold no attachments, by name. -/
def baseTables (contents : Contents) (config : Config) : Result (List String) := do
  return (← contents.tableNames).filter fun table => !config.isAttachmentTable table

/-- The columns of a table, view or module, in order.  A name ends at its first NUL character. -/
def columns (contents : Contents) (table : String) : Result (List Column) := do
  let context := "reading columns of '" ++ table ++ "'"
  let d ← contents.read context
  let name := String.ofList (Pattern.beforeNul table.toList)
  match d.relation? name with
  | none =>
    if d.isDeclared name then throw (.inContext context unreadableNameDetail)
    else throw (.tableNotFound table)
  | some rel => if rel.columns.isEmpty then throw (.tableNotFound table) else return rel.columns

/-- There is a table of exactly this name. -/
def tableExists (contents : Contents) (table : String) : Result Bool := do
  let d ← contents.read ("looking up table '" ++ table ++ "'")
  return d.tables.any fun t => t.name == table

/-- The first of some names that is the name of a table. -/
def firstTable? (contents : Contents) : List String → Result (Option String)
  | [] => .ok none
  | name :: rest => do
    if ← contents.tableExists name then return some name
    contents.firstTable? rest

/-- The table that holds the attachments of a table, earlier suffixes first. -/
def attachmentTable? (contents : Contents) (config : Config) (base : String) :
    Result (Option String) :=
  contents.firstTable? (config.attachmentSuffixes.map fun suffix => base ++ suffix)

end Contents

end TableExplorer
