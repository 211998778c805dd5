import TableExplorer.Dataset.Pattern
import TableExplorer.Dataset.Relation
import TableExplorer.Identifier

/-!
Datasets: tables with their records, and views, which show all of a table under another name.

* `Table.insert` puts a record into a table, each cell as the column's affinity stores it.  The
  records of a table are in the order of their numbers; a record has the number in the column that
  gives it, if there is such a column and it has one, and else the next one.
* `Dataset.relation?` finds what a statement reads from under a name, whatever the case of ASCII
  letters.  The catalogue of tables and views can be read as a table, too, and so can the modules of
  the store, which no catalogue lists.
* `Contents` is what a dataset file holds: a dataset, or something that is none.

Left out of a table are its indexes and its constraints other than that one column: records that a
constraint refuses are not put into tables, and an index does not change the order in which records
are read.  Of views, only those that show all of a table are there, and texts are kept in UTF-8.
-/

namespace TableExplorer

/-- The type names that are always written in capitals. -/
def standardTypes : List String := ["ANY", "BLOB", "INT", "INTEGER", "REAL", "TEXT"]

/-- A column as a table keeps it: a standard type in capitals, any other type as it is written. -/
def Column.declare (name type : String) : Column :=
  ⟨name, (standardTypes.find? (sameName type)).getD type⟩

/-- What a table declares besides the names and types of its columns. -/
structure TableDetails where
  /-- How the columns compare texts; columns for which nothing is said compare their bytes. -/
  collations : List Collation := []
  /-- The place of the column that gives the numbers of the records. -/
  numberColumn? : Option Nat := none
  /-- The statement that creates the table, where it says more than names and types. -/
  statement? : Option String := none
  deriving DecidableEq, Repr, Inhabited

/-- A table: its name, its columns, and its records in the order of their numbers. -/
structure Table where
  name : String
  columns : List Column
  records : List Record := []
  details : TableDetails := {}
  deriving Inhabited

/-- Puts a record before the first one that has a larger number. -/
def insertByNumber (record : Record) : List Record → List Record
  | [] => [record]
  | first :: rest =>
    if record.number < first.number then record :: first :: rest
    else first :: insertByNumber record rest

namespace Table

/-- A cell as it is stored: not-a-number is nothing. -/
def storable : Cell → Cell
  | .real .nan => .null
  | cell => cell

/-- The number of a record that brings none: the next one after the last; the first is one. -/
def nextNumber (t : Table) : Int := ((t.records.getLast?.map (·.number)).getD 0) + 1

/-- The cells of a record as the table stores them. -/
def stored (t : Table) (cells : List Cell) : List Cell :=
  t.columns.zipWith (fun c cell => c.affinity.apply (storable cell)) cells

/-- The record with these cells.  The column that gives the numbers shows the number in any case. -/
def record (t : Table) (cells : List Cell) : Record :=
  let stored := t.stored cells
  match t.details.numberColumn? with
  | none => ⟨t.nextNumber, stored⟩
  | some column =>
    match stored[column]? with
    | some (.integer i) => ⟨i.toInt, stored⟩
    | _ => ⟨t.nextNumber, stored.set column (.integer (.ofInt t.nextNumber))⟩

/-- The table with one more record. -/
def insert (t : Table) (cells : List Cell) : Table :=
  { t with records := insertByNumber (t.record cells) t.records }

/-- The table with more records, in order. -/
def insertAll (t : Table) (rows : List (List Cell)) : Table := rows.foldl insert t

/-- The table as statements read it. -/
def relation (t : Table) : Relation :=
  { columns := t.columns, records := t.records, numbered := true
    collations := t.details.collations }

end Table

/-- A view that shows all of a table. -/
structure View where
  name : String
  table : String
  deriving Inhabited

/-- A table that the store itself has, under a name that no catalogue lists; what is read from it,
if anything can be. -/
structure Module where
  name : String
  relation? : Option Relation
  deriving Inhabited

/-- The modules that have the same in every dataset.  Those that tell of a dataset are not among
them. -/
def standardModules : List Module :=
  let empty (names : List String) : Relation :=
    { columns := names.map fun name => ⟨name, ""⟩, records := [], numbered := true }
  let values := empty ["key", "value", "type", "atom", "id", "parent", "fullkey", "path"]
  let parts := empty ["input", "token", "start", "end", "position"]
  [⟨"json_each", some values⟩, ⟨"json_tree", some values⟩,
    ⟨"fts3tokenize", some { parts with failure? := some "SQL logic error" }⟩, ⟨"fts4aux", none⟩]

/-- Tables and views, in the order of their creation, and the modules of the store. -/
structure Dataset where
  tables : List Table
  views : List View
  modules : List Module := standardModules
  deriving Inhabited

namespace Dataset

/-- The dataset of these tables, without views. -/
def ofTables (tables : List Table) : Dataset := { tables := tables, views := [] }

/-- The column of a view: a column without a type takes the type of blobs. -/
def viewColumn (c : Column) : Column :=
  if c.declaredType.isEmpty then ⟨c.name, "BLOB"⟩ else c

/-- A relation as a view shows it. -/
def viewOf (rel : Relation) : Relation :=
  { rel with columns := rel.columns.map viewColumn, numbered := false }

/-- A name between double quotes. -/
def quotedName (name : String) : String :=
  "\"" ++ String.ofList (Identifier.doubleQuotes name.toList) ++ "\""

/-- A column as it stands in the statement that creates its table. -/
def columnText (c : Column) : String :=
  quotedName c.name ++ if c.declaredType.isEmpty then "" else " " ++ c.declaredType

/-- The statement that creates a table. -/
def creation (t : Table) : String :=
  t.details.statement?.getD ("CREATE TABLE " ++ quotedName t.name ++ " (" ++
    ", ".intercalate (t.columns.map columnText) ++ ")")

/-- The statement that creates a view. -/
def viewCreation (v : View) : String :=
  "CREATE VIEW " ++ quotedName v.name ++ " AS SELECT * FROM " ++ quotedName v.table

/-- The page on which the records of the first table start; the catalogue has the one before. -/
def firstPage : Nat := 2

/-- The columns of a catalogue. -/
def catalogueColumns : List Column :=
  [⟨"type", "TEXT"⟩, ⟨"name", "TEXT"⟩, ⟨"tbl_name", "TEXT"⟩, ⟨"rootpage", "INT"⟩, ⟨"sql", "TEXT"⟩]

/-- The catalogue: a record for each table and view. -/
def catalogue (d : Dataset) : Table :=
  let entry (kind name statement : String) (page : Nat) : List Cell :=
    [.ofString kind, .ofString name, .ofString name, .integer (.ofNat page), .ofString statement]
  let tables := d.tables.mapIdx fun i t => entry "table" t.name (creation t) (i + firstPage)
  let views := d.views.map fun v => entry "view" v.name (viewCreation v) 0
  Table.insertAll { name := "sqlite_master", columns := catalogueColumns } (tables ++ views)

/-- All views, as many times as there are views: a view may show one that is created after it. -/
def viewRounds (d : Dataset) : List View := (List.replicate d.views.length d.views).flatten

/-- There is a view of this name, whatever the case of ASCII letters. -/
def hasView (d : Dataset) (name : String) : Bool := d.views.any fun v => sameName v.name name

/-- The modules that can be read from, but for those behind whose name there is a view. -/
def moduleRelations (d : Dataset) : List (String × Relation) :=
  d.modules.filterMap fun m =>
    if d.hasView m.name then none else m.relation?.map fun rel => (m.name, rel)

/-- The catalogue of temporary tables, of which there are none, under its two names.  No view shows
it. -/
def temporaryRelations : List (String × Relation) :=
  ["sqlite_temp_master", "sqlite_temp_schema"].map fun name =>
    (name, { columns := catalogueColumns, records := [], numbered := true })

/-- What can be read from, by name: the catalogue under its two names, the tables, the modules, and
the views that show something that can be read from. -/
def relations (d : Dataset) : List (String × Relation) :=
  let catalogue := d.catalogue.relation
  let tables := ("sqlite_master", catalogue) :: ("sqlite_schema", catalogue) ::
    (d.tables.map (fun t => (t.name, t.relation)) ++ d.moduleRelations)
  d.viewRounds.foldl (fun known v =>
    match known.find? fun entry => sameName entry.1 v.table with
    | some (_, rel) => known ++ [(v.name, viewOf rel)]
    | none => known) tables ++ temporaryRelations

/-- There is a view or a module of this name, whatever the case of ASCII letters. -/
def isDeclared (d : Dataset) (name : String) : Bool :=
  d.hasView name || d.modules.any fun m => sameName m.name name

/-- What is read from under a name. -/
def relation? (d : Dataset) (name : String) : Option Relation :=
  (d.relations.find? fun entry => sameName entry.1 name).map (·.2)

end Dataset

/-- What the file of a dataset holds. -/
inductive Contents where
  | dataset (d : Dataset)
  | unreadable
  deriving Inhabited

end TableExplorer
