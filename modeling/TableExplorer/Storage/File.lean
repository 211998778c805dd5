import TableExplorer.Storage.Declaration
import TableExplorer.Storage.Tree

/-!
Dataset files.  `Contents.ofBytes` reads the bytes of a file: its catalogue names the tables, with
the statements that created them and the pages where their records are.  An empty file is an empty
dataset, and a file that cannot be understood is unreadable.  Indexes are not read, nor are views
that show something else than all of one table.
-/

namespace TableExplorer

namespace Storage

/-- An entry of the catalogue. -/
structure CatalogueEntry where
  kind : String
  name : String
  root : Nat
  statement : String
  deriving Inhabited

/-- The entry in a record of the catalogue. -/
def catalogueEntry? : List Cell → Option CatalogueEntry
  | [.text kind, .text name, _, .integer root, .text statement] => do
    return ⟨← Text.Utf8.decode? kind, ← Text.Utf8.decode? name, root.toInt.toNat,
      ← Text.Utf8.decode? statement⟩
  | _ => none

/-- A cell as its column shows it: the number of the record under its name, and reals that are kept
as integers as reals. -/
def shownCell (number : Int) (d : DeclaredColumn) (cell : Cell) : Cell :=
  if d.isNumber && cell.isNull then .integer (.ofInt number)
  else if d.column.affinity = .real then Affinity.toReal cell
  else cell

/-- A record with a cell for every column; cells that are not kept are nothing. -/
def shownRecord (columns : List DeclaredColumn) (record : Int × List Cell) : Record :=
  let padding := List.replicate (columns.length - record.2.length) Cell.null
  ⟨record.1, columns.zipWith (shownCell record.1) (record.2 ++ padding)⟩

/-- The table of an entry. -/
def readTable? (pages : Pages) (entry : CatalogueEntry) : Option Table := do
  let columns ← tableColumns? entry.statement
  let records ← pages.records? entry.root
  return { createdTable entry.name entry.statement columns with
    records := records.map (shownRecord columns) }

/-- The view of an entry. -/
def readView? (entry : CatalogueEntry) : Option View :=
  (viewTable? entry.statement).map fun table => ⟨entry.name, table⟩

/-- The page of the catalogue. -/
def cataloguePage : Nat := 1

/-- The dataset of a file. -/
def readDataset? (bytes : ByteArray) : Option Dataset := do
  let pages ← Pages.ofBytes? bytes
  let entries := (← pages.records? cataloguePage).filterMap fun record => catalogueEntry? record.2
  let tables ← (entries.filter fun e => e.kind == "table" && e.root != 0).mapM (readTable? pages)
  let views := (entries.filter fun e => e.kind == "view").filterMap readView?
  return { tables := tables, views := views }

end Storage

/-- What a dataset file with these bytes holds. -/
def Contents.ofBytes (bytes : ByteArray) : Contents :=
  if bytes.isEmpty then .dataset { tables := [], views := [] }
  else
    match Storage.readDataset? bytes with
    | some d => .dataset d
    | none => .unreadable

end TableExplorer
