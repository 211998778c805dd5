import TableExplorer.Catalogue
import TableExplorer.Dataset.Statement

/-!
Attachment coverage: how many records of a table have a row in the table of its attachments.

In the check both tables are read at once, the attachment table under the name `att`.  A base table
that is itself called `att` is hidden behind that name: its record identifier is then looked for in
the attachment table first.
-/

namespace TableExplorer

/-- How many records have attachments, and how many have none. -/
structure AttachmentCoverage where
  covered : Nat := 0
  uncovered : Nat := 0
  deriving DecidableEq, Repr, Inhabited

namespace AttachmentCoverage

/-- Both counts added up. -/
def add (a b : AttachmentCoverage) : AttachmentCoverage :=
  ⟨a.covered + b.covered, a.uncovered + b.uncovered⟩

instance : Add AttachmentCoverage := ⟨add⟩

/-- All records. -/
def total (a : AttachmentCoverage) : Nat := a.covered + a.uncovered

end AttachmentCoverage

/-- The name of the attachment table in the check. -/
def attachmentAlias : String := "att"

/-- The affinity of what a name stands for. -/
def Relation.affinityOf (rel : Relation) : Reference → Affinity
  | .column index => ((rel.columns[index]?).map Column.affinity).getD .blob
  | .recordNumber => .integer
  | .literal _ => .blob

/-- The cells are equal under a collation, texts being read as numbers if `numeric`; nothing equals
nothing. -/
def Cell.sameAs (numeric : Bool) (collation : Collation) (a b : Cell) : Bool :=
  let convert (cell : Cell) : Cell :=
    collation.key (if numeric then Affinity.applyNumeric cell else cell)
  !a.isNull && !b.isNull && Cell.compare (convert a) (convert b) == .eq

/-- A record identifier is read from the attachment table itself: the base table is hidden behind
its name, and the attachment table has such a column. -/
def isHidden (table recordId : Identifier) (attachments : Relation) : Bool :=
  sameName table.name attachmentAlias &&
    match attachments.reference recordId.name with
    | .literal _ => false
    | _ => true

/-- The record has a row in the attachment table.  Their identifiers are compared as the attachment
table compares its own. -/
def hasAttachment (table recordId foreignId : Identifier) (base attachments : Relation)
    (record : Record) : Bool :=
  let foreign := attachments.reference foreignId.name
  let own := if isHidden table recordId attachments then attachments else base
  let ownReference := own.reference recordId.name
  let numeric :=
    (attachments.affinityOf foreign).isNumeric || (own.affinityOf ownReference).isNumeric
  attachments.records.any fun row =>
    let ownRow := if isHidden table recordId attachments then row else record
    (foreign.cell row).sameAs numeric (attachments.collationOf foreign) (ownReference.cell ownRow)

/-- The coverage of records of a base table. -/
def coverageOf (table recordId foreignId : Identifier) (base attachments : Relation)
    (records : List Record) : AttachmentCoverage :=
  let covered := records.countP (hasAttachment table recordId foreignId base attachments)
  ⟨covered, records.length - covered⟩

/-- The coverage of records of a table, if it has an attachment table with record identifiers. -/
def attachmentCoverage? (contents : Contents) (config : Config) (table : Identifier)
    (base : Relation) (records : List Record) (recordId : String) :
    Result (Option AttachmentCoverage) := do
  match ← contents.attachmentTable? config table.name with
  | none => return none
  | some attachmentTable =>
    let columns ← contents.columns attachmentTable
    match pickColumn? (columnNames columns) config.roles.recordId with
    | none => return none
    | some foreignId =>
      let source ← Identifier.ofName attachmentTable
      let foreignId ← Identifier.ofName foreignId
      let recordId ← Identifier.ofName recordId
      let attachments ← contents.source source
      return some (coverageOf table recordId foreignId base attachments records)

end TableExplorer
