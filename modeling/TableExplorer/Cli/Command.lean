import TableExplorer.Cli.Arguments
import TableExplorer.Explorer

/-!
The commands of the command line, and how they are written.  `Invocation.ofArguments?` reads a whole
command line: options that hold for all commands, the name of a command, and its own arguments.  It
has no answer if anything is missing, unknown, or too much.
-/

namespace TableExplorer.Cli

/-- What a command asks for. -/
inductive Command where
  /-- The names of the base tables, or of all tables. -/
  | tables (all : Bool)
  | columns (table : String)
  | page (request : TableRequest)
  | histogram (request : HistogramRequest)
  /-- The dashboard of one table, or of all base tables. -/
  | summary (table? : Option String) (query : String)
  /-- A view as comma-separated text, for a file of this name. -/
  | exportRows (request : TableRequest) (out? : Option String)
  deriving Inhabited

/-- A command with the options that hold for all commands. -/
structure Invocation where
  /-- The path of the dataset. -/
  dataset : String
  /-- The path of the configuration. -/
  config? : Option String
  jsonLogs : Bool
  verbose : Bool
  command : Command
  deriving Inhabited

/-- The option for the text to search for. -/
def querySpec : OptionSpec := ⟨"query", some 'q', true⟩

/-- An option with a value and without a letter. -/
def valueSpec (name : String) : OptionSpec := ⟨name, none, true⟩

/-- An option that is given or not. -/
def flagSpec (name : String) : OptionSpec := ⟨name, none, false⟩

/-- The options of a view. -/
def viewSpecs : List OptionSpec := [querySpec, valueSpec "sort", flagSpec "desc"]

/-- The text to search for. -/
def Arguments.query (a : Arguments) : String := (a.value? "query").getD ""

/-- The direction asked for. -/
def Arguments.direction (a : Arguments) : Direction := .ofDescending (a.has "desc")

/-- The view of a table that is asked for. -/
def Arguments.view (a : Arguments) (table : String) : TableRequest where
  table := table
  query := a.query
  sort := match a.value? "sort" with
    | some column => .by column a.direction
    | none => {}

/-- What an optional value denotes; a value that denotes nothing is an error. -/
def Arguments.optionalWith? {α : Type} (a : Arguments) (name : String) (read : String → Option α) :
    Option (Option α) :=
  match a.value? name with
  | some s => some <$> read s
  | none => some none

/-- A path; the empty text is none. -/
def readPath? (s : String) : Option String := if s.isEmpty then none else some s

namespace Command

/-- The command for tables. -/
def readTables? (arguments : List String) : Option Command := do
  let a ← readArguments? [flagSpec "all"] false arguments
  match a.positional with
  | [] => some (.tables (a.has "all"))
  | _ => none

/-- The command for columns. -/
def readColumns? (arguments : List String) : Option Command := do
  let a ← readArguments? [] false arguments
  match a.positional with
  | [table] => some (.columns table)
  | _ => none

/-- The command for a page. -/
def readPage? (arguments : List String) : Option Command := do
  let a ← readArguments? (viewSpecs ++ [valueSpec "page", valueSpec "page-size"]) false arguments
  let page? ← a.optionalWith? "page" readInt64?
  let pageSize? ← a.optionalWith? "page-size" readSize?
  match a.positional with
  | [table] =>
    some (.page { a.view table with page := (page?.getD 1).toInt, pageSize? := pageSize? })
  | _ => none

/-- The command for a histogram. -/
def readHistogram? (arguments : List String) : Option Command := do
  let specs := [querySpec, valueSpec "limit", flagSpec "desc", flagSpec "by-value"]
  let a ← readArguments? specs false arguments
  let limit? ← a.optionalWith? "limit" readSize?
  match a.positional with
  | [table, column] =>
    some (.histogram ⟨table, column, a.query, limit?, a.direction, !a.has "by-value"⟩)
  | _ => none

/-- The command for a dashboard. -/
def readSummary? (arguments : List String) : Option Command := do
  let a ← readArguments? [valueSpec "table", querySpec] false arguments
  match a.positional with
  | [] => some (.summary (a.value? "table") a.query)
  | _ => none

/-- The command for an export. -/
def readExport? (arguments : List String) : Option Command := do
  let a ← readArguments? (viewSpecs ++ [⟨"out", some 'o', true⟩]) false arguments
  let out? ← a.optionalWith? "out" readPath?
  match a.positional with
  | [table] => some (.exportRows (a.view table) out?)
  | _ => none

/-- The command of a name with its arguments. -/
def ofArguments? : List String → Option Command
  | "tables" :: rest => readTables? rest
  | "columns" :: rest => readColumns? rest
  | "page" :: rest => readPage? rest
  | "histogram" :: rest => readHistogram? rest
  | "summary" :: rest => readSummary? rest
  | "export" :: rest => readExport? rest
  | _ => none

end Command

/-- Reads a command line. -/
def Invocation.ofArguments? (arguments : List String) : Option Invocation := do
  let specs :=
    [valueSpec "db", valueSpec "config", flagSpec "json-logs", ⟨"verbose", some 'v', false⟩]
  let a ← readArguments? specs true arguments
  let dataset ← a.value? "db" >>= readPath?
  let config? ← a.optionalWith? "config" readPath?
  let command ← Command.ofArguments? a.positional
  return ⟨dataset, config?, a.has "json-logs", a.has "verbose", command⟩

end TableExplorer.Cli
