import TableExplorer.Diagnostics
import TableExplorer.Error
import TableExplorer.Text.Lowercase

/-!
The configuration of an explorer: what it knows about the conventions of its datasets.

* `ColumnRoles`: which column names play which part; candidates are tried in order.
* `Config`: sizes and limits, roles, attachment suffixes, date conventions and labels; the default
  values are those of a dataset of public contracts.
* `Config.check` refuses sizes of zero and missing suffixes, the first fault first.
-/

namespace TableExplorer

/-- Candidate column names for each part that a column can play. -/
structure ColumnRoles where
  recordType : List String :=
    ["Tipo", "TipoContrato", "Tipo_licitacion", "Tipo_licitación"]
  amount : List String :=
    ["Importe", "Importe_con_iva", "Importe_con_IVE", "Importe_sin_iva", "Importe_sen_IVE"]
  awardee : List String :=
    ["Adxudicatario", "Adjudicatario", "Proveedor", "Contratista", "Empresa"]
  recordId : List String := ["Expediente"]
  description : List String :=
    ["Objeto_del_contrato", "Objeto_del_Contrato", "ObjetoContrato", "Obxecto", "Objeto", "Asunto",
      "Descripcion", "Descripción", "Concepto", "Titulo", "Título"]
  deriving DecidableEq, Repr, Inhabited

/-- Tables whose names end in `tableSuffix` hold their dates in `dateColumn`. -/
structure DateConvention where
  tableSuffix : String
  dateColumn : String
  deriving DecidableEq, Repr, Inhabited

/-- The configuration of an explorer. -/
structure Config where
  /-- How many values are sampled to find a column's number style. -/
  sampleSize : Nat := 50
  /-- The size of a page whose request names none. -/
  defaultPageSize : Nat := 50
  /-- How many entries a histogram has at most. -/
  histogramLimit : Nat := 50
  /-- How many awardees of one table are kept. -/
  awardeesPerTable : Nat := 100
  /-- How many awardees of all tables are kept. -/
  awardeesGlobal : Nat := 10
  /-- How many records of the highest amounts are kept, for one table and for all. -/
  topRecords : Nat := 20
  /-- The length from which the label of a record is cut. -/
  labelMaxChars : Nat := 50
  /-- What stands at the end of a label that was cut. -/
  ellipsis : String := "…"
  /-- The endings of the names of attachment tables, in the order in which they are tried. -/
  attachmentSuffixes : List String := ["_files", "_file"]
  roles : ColumnRoles := {}
  /-- Where tables hold their dates; the first convention that applies decides. -/
  dateConventions : List DateConvention :=
    [⟨"_contratos_menores", "Estado"⟩, ⟨"_licitacions", "Fechas"⟩]
  /-- The label of records without a type. -/
  blankTypeLabel : String := "(no type)"
  /-- The label of records without an awardee. -/
  blankAwardeeLabel : String := "(unnamed)"
  /-- Tables may be summarised at the same time. -/
  enableParallel : Bool := true
  /-- How many reads may run at the same time; see `Config.ofProcessors`. -/
  maxConcurrentReads : Nat := 8
  log : LogConfig := {}
  deriving DecidableEq, Repr, Inhabited

namespace Config

/-- The default configuration of a machine: there may be as many reads at the same time as it has
processors, but no more than eight. -/
def ofProcessors (processors : Nat) : Config :=
  { maxConcurrentReads := min (max processors 1) 8 }

/-- Why a configuration cannot be used. -/
inductive Fault where
  | zero (field : String)
  | noSuffix
  deriving DecidableEq, Repr

/-- The text that tells why a configuration cannot be used. -/
def Fault.message : Fault → String
  | .zero field => field ++ " must be greater than zero"
  | .noSuffix => "attachment_suffixes must list at least one non-empty suffix"

/-- The sizes that must not be zero, by their names. -/
def sizes (c : Config) : List (String × Nat) :=
  [("sample_size", c.sampleSize), ("default_page_size", c.defaultPageSize),
    ("histogram_limit", c.histogramLimit), ("awardees_per_table", c.awardeesPerTable),
    ("awardees_global", c.awardeesGlobal), ("top_records", c.topRecords),
    ("label_max_chars", c.labelMaxChars), ("max_concurrent_reads", c.maxConcurrentReads)]

/-- What is wrong with a configuration, the first fault first. -/
def fault? (c : Config) : Option Fault :=
  match c.sizes.find? fun size => size.2 == 0 with
  | some (field, _) => some (.zero field)
  | none =>
    if c.attachmentSuffixes.isEmpty || c.attachmentSuffixes.any String.isEmpty then some .noSuffix
    else none

/-- Refuses configurations that cannot be used. -/
def check (c : Config) : Result Unit :=
  match c.fault? with
  | some fault => .error (.configuration fault.message)
  | none => .ok ()

/-- A name ends in a suffix, whatever the case of letters. -/
def hasSuffix (name suffix : String) : Bool :=
  (Text.lowercase suffix).toList.isSuffixOf (Text.lowercase name).toList

/-- A table with one of the attachment suffixes. -/
def isAttachmentTable (c : Config) (table : String) : Bool :=
  c.attachmentSuffixes.any (hasSuffix table)

/-- The column in which a table holds its dates. -/
def dateColumn? (c : Config) (table : String) : Option String :=
  (c.dateConventions.find? fun convention => hasSuffix table convention.tableSuffix).map
    (·.dateColumn)

end Config

end TableExplorer
