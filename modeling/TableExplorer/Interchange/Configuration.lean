import TableExplorer.Config.Basic
import TableExplorer.Json.Decoder
import TableExplorer.Json.Reader

/-!
Configurations as JSON.  A JSON configuration is an overlay: fields that are not given keep their
default values (`Config.ofJsonOn?`), one of which depends on the machine.  `Config.loadOn` reads the
text of a configuration and refuses one that cannot be used; `Config.encode` writes all settings,
and `Config.toJson` those that answers show.
-/

namespace TableExplorer

/-- The fields of a logging configuration, in order. -/
def LogConfig.fieldNames : List String := ["log_queries", "log_table_progress", "max_sql_chars"]

/-- Reads a logging configuration over the default one. -/
def LogConfig.ofJson? (json : Json) : Option LogConfig := do
  let base : LogConfig := {}
  let fields ← json.toFields? fieldNames
  return {
    logQueries := ← fields.optional "log_queries" Json.toBool? base.logQueries
    logTableProgress := ← fields.optional "log_table_progress" Json.toBool? base.logTableProgress
    maxSqlChars := ← fields.optional "max_sql_chars" Json.toSize? base.maxSqlChars }

/-- The fields of the logging. -/
def LogConfig.fields (c : LogConfig) : Json.Fields :=
  [("log_queries", .bool c.logQueries), ("log_table_progress", .bool c.logTableProgress),
    ("max_sql_chars", .ofNat c.maxSqlChars)]

/-- Writes a logging configuration. -/
def LogConfig.toJson (c : LogConfig) : Json := .object c.fields

/-- The parts that columns play, in order. -/
def ColumnRoles.fieldNames : List String :=
  ["record_type", "amount", "awardee", "record_id", "description"]

/-- Reads candidate names over the default ones. -/
def ColumnRoles.ofJson? (json : Json) : Option ColumnRoles := do
  let base : ColumnRoles := {}
  let fields ← json.toFields? fieldNames
  return {
    recordType := ← fields.optional "record_type" Json.toStrings? base.recordType
    amount := ← fields.optional "amount" Json.toStrings? base.amount
    awardee := ← fields.optional "awardee" Json.toStrings? base.awardee
    recordId := ← fields.optional "record_id" Json.toStrings? base.recordId
    description := ← fields.optional "description" Json.toStrings? base.description }

/-- The fields of the roles. -/
def ColumnRoles.fields (r : ColumnRoles) : Json.Fields :=
  [("record_type", .ofStrings r.recordType), ("amount", .ofStrings r.amount),
    ("awardee", .ofStrings r.awardee), ("record_id", .ofStrings r.recordId),
    ("description", .ofStrings r.description)]

/-- Writes candidate names. -/
def ColumnRoles.toJson (r : ColumnRoles) : Json := .object r.fields

/-- Reads a date convention, both fields of which must be given. -/
def DateConvention.ofJson? (json : Json) : Option DateConvention := do
  let fields ← json.toFields? ["table_suffix", "date_column"]
  return {
    tableSuffix := ← fields.required "table_suffix" Json.toString?
    dateColumn := ← fields.required "date_column" Json.toString? }

/-- The fields of a date convention. -/
def DateConvention.fields (d : DateConvention) : Json.Fields :=
  [("table_suffix", .string d.tableSuffix), ("date_column", .string d.dateColumn)]

/-- Writes a date convention. -/
def DateConvention.toJson (d : DateConvention) : Json := .object d.fields

namespace Config

/-- The fields of a configuration, in order. -/
def fieldNames : List String :=
  ["sample_size", "default_page_size", "histogram_limit", "awardees_per_table", "awardees_global",
    "top_records", "label_max_chars", "ellipsis", "attachment_suffixes", "roles",
    "date_conventions", "blank_type_label", "blank_awardee_label", "enable_parallel",
    "max_concurrent_reads", "log"]

/-- Reads a configuration over the default one of a machine. -/
def ofJsonOn? (processors : Nat) (json : Json) : Option Config := do
  let base := ofProcessors processors
  let fields ← json.toFields? fieldNames
  let size (name : String) (default : Nat) : Option Nat := fields.optional name Json.toSize? default
  let text (name : String) (default : String) : Option String :=
    fields.optional name Json.toString? default
  return {
    sampleSize := ← size "sample_size" base.sampleSize
    defaultPageSize := ← size "default_page_size" base.defaultPageSize
    histogramLimit := ← size "histogram_limit" base.histogramLimit
    awardeesPerTable := ← size "awardees_per_table" base.awardeesPerTable
    awardeesGlobal := ← size "awardees_global" base.awardeesGlobal
    topRecords := ← size "top_records" base.topRecords
    labelMaxChars := ← size "label_max_chars" base.labelMaxChars
    ellipsis := ← text "ellipsis" base.ellipsis
    attachmentSuffixes :=
      ← fields.optional "attachment_suffixes" Json.toStrings? base.attachmentSuffixes
    roles := ← fields.optional "roles" ColumnRoles.ofJson? base.roles
    dateConventions :=
      ← fields.optional "date_conventions" (Json.toList? DateConvention.ofJson?)
        base.dateConventions
    blankTypeLabel := ← text "blank_type_label" base.blankTypeLabel
    blankAwardeeLabel := ← text "blank_awardee_label" base.blankAwardeeLabel
    enableParallel := ← fields.optional "enable_parallel" Json.toBool? base.enableParallel
    maxConcurrentReads := ← size "max_concurrent_reads" base.maxConcurrentReads
    log := ← fields.optional "log" LogConfig.ofJson? base.log }

/-- Reads a configuration over the default one of a machine with eight processors or more. -/
def ofJson? (json : Json) : Option Config := ofJsonOn? 8 json

/-- The fields of a configuration, with some JSON for its roles, its date conventions and its
logging. -/
def fields (c : Config) (roles dates log : Json) : Json.Fields :=
  [("sample_size", .ofNat c.sampleSize), ("default_page_size", .ofNat c.defaultPageSize),
    ("histogram_limit", .ofNat c.histogramLimit),
    ("awardees_per_table", .ofNat c.awardeesPerTable),
    ("awardees_global", .ofNat c.awardeesGlobal), ("top_records", .ofNat c.topRecords),
    ("label_max_chars", .ofNat c.labelMaxChars), ("ellipsis", .string c.ellipsis),
    ("attachment_suffixes", .ofStrings c.attachmentSuffixes), ("roles", roles),
    ("date_conventions", dates), ("blank_type_label", .string c.blankTypeLabel),
    ("blank_awardee_label", .string c.blankAwardeeLabel),
    ("enable_parallel", .bool c.enableParallel),
    ("max_concurrent_reads", .ofNat c.maxConcurrentReads), ("log", log)]

/-- The fields of a configuration. -/
def allFields (c : Config) : Json.Fields :=
  c.fields c.roles.toJson (.array (c.dateConventions.map DateConvention.toJson)) c.log.toJson

/-- Writes a configuration. -/
def encode (c : Config) : Json := .object c.allFields

/-- Writes the settings that answers show: all but the number of reads at the same time, which may
depend on the machine. -/
def toJson (c : Config) : Json :=
  .object (c.allFields.filter fun field => field.1 != "max_concurrent_reads")

/-- Reads the text of a configuration on a machine; the configuration must be usable. -/
def loadOn (processors : Nat) (text : String) : Result Config := do
  match (Json.ofText? text).bind (ofJsonOn? processors) with
  | some config =>
    config.check
    return config
  | none => throw (.serialization "not a configuration")

/-- Reads the text of a configuration on a machine with eight processors or more. -/
def load (text : String) : Result Config := loadOn 8 text

end Config

end TableExplorer
