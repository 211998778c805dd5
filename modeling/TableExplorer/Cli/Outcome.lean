import TableExplorer.Cli.Command
import TableExplorer.Cli.Directory
import TableExplorer.Interchange.Answers
import TableExplorer.Interchange.Configuration

/-!
What a command line does.

* `Output` is what a command has to say and where it goes; `Command.output` finds it.
* `Invocation.output` reads the configuration and the dataset first.
* `Output.deliver` says what is then seen: the text on standard output, the files of the directory,
  and the failure, if there is one.  A file is created before its content is known, so a failed
  export leaves an empty file.
-/

namespace TableExplorer.Cli

/-- Where the answer of a command goes. -/
inductive Destination where
  | standardOutput
  | file (path : String)
  deriving DecidableEq, Repr, Inhabited

/-- The answer of a command, or why there is none, and where it goes. -/
structure Output where
  destination : Destination
  content : Result String
  deriving Inhabited

/-- The files that a command finds: configurations and datasets by their paths. -/
structure Sources where
  text? : String → Option String
  dataset? : String → Option Contents

/-- Why a command line fails. -/
inductive Failure where
  /-- The command line cannot be understood. -/
  | usage
  | error (e : Error)
  | cannotCreate (path : String)
  deriving DecidableEq, Repr, Inhabited

/-- The exit code of a failure. -/
def Failure.exitCode : Failure → Nat
  | .usage => 2
  | .error _ => 1
  | .cannotCreate _ => 1

/-- What is seen of a command line. -/
structure Outcome where
  failure? : Option Failure
  standardOutput : String
  directory : Directory
  deriving Inhabited

/-- The exit code of a command line. -/
def Outcome.exitCode (o : Outcome) : Nat := (o.failure?.map Failure.exitCode).getD 0

/-- A value as it is printed. -/
def printed (json : Json) : String := json.pretty ++ "\n"

/-- A value for standard output. -/
def printedOutput (answer : Result Json) : Output := ⟨.standardOutput, printed <$> answer⟩

/-- Where an export goes: a hyphen stands for standard output. -/
def exportDestination (table : String) (out? : Option String) : Destination :=
  match out? with
  | some path => if path = "-" then .standardOutput else .file path
  | none => .file (exportFileName table)

/-- The answer of a command. -/
def Command.output (e : Explorer) : Command → Output
  | .tables all => printedOutput (Json.ofStrings <$> if all then e.tables else e.baseTables)
  | .columns table =>
    printedOutput ((fun columns => .array (columns.map Column.toJson)) <$> e.columns table)
  | .page request => printedOutput (TablePage.toJson <$> e.page request)
  | .histogram request => printedOutput (Histogram.toJson <$> e.histogram request)
  | .summary (some table) query => printedOutput (Aggregate.toJson <$> e.summarizeTable table query)
  | .summary none query => printedOutput (Aggregate.toJson <$> e.summarizeAll query)
  | .exportRows request out? =>
    ⟨exportDestination request.table out?, (·.2) <$> e.exportCsv request⟩

namespace Invocation

/-- The configuration of a command line. -/
def config (inv : Invocation) (sources : Sources) : Result Config := do
  let config ← match inv.config? with
    | none => pure {}
    | some path =>
      match sources.text? path with
      | some text => Config.load text
      | none => throw (.io "configuration not found")
  return if inv.verbose then { config with log := .verbose } else config

/-- The explorer of a command line. -/
def explorer (inv : Invocation) (sources : Sources) : Result Explorer := do
  Explorer.open (sources.dataset? inv.dataset) (← inv.config sources)

/-- The answer of a command line. -/
def output (inv : Invocation) (sources : Sources) : Output :=
  match inv.explorer sources with
  | .ok e => inv.command.output e
  | .error error => ⟨.standardOutput, .error error⟩

end Invocation

/-- What is seen of an answer in a directory. -/
def Output.deliver (o : Output) (d : Directory) : Outcome :=
  match o.destination with
  | .standardOutput =>
    match o.content with
    | .ok text => ⟨none, text, d⟩
    | .error e => ⟨some (.error e), "", d⟩
  | .file path =>
    match Directory.fileAt? path with
    | none => ⟨some (.cannotCreate path), "", d⟩
    | some name =>
      match o.content with
      | .ok text => ⟨none, "", d.write name text⟩
      | .error e => ⟨some (.error e), "", d.write name ""⟩

/-- Runs a command line in a directory. -/
def run (arguments : List String) (sources : Sources) (d : Directory) : Outcome :=
  match Invocation.ofArguments? arguments with
  | some inv => (inv.output sources).deliver d
  | none => ⟨some .usage, "", d⟩

end TableExplorer.Cli
