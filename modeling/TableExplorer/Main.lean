import TableExplorer.Cli.Outcome
import TableExplorer.Storage.File

/-!
The program: reads the files that the command line names, prints the answer, and ends with the exit
code.  All that is decided is decided elsewhere.
-/

namespace TableExplorer.Cli

/-- The text of a file, if there is one. -/
def readText (path : String) : IO (Option String) := do
  try
    return some (← IO.FS.readFile path)
  catch _ => return none

/-- What a dataset file holds, if there is one. -/
def readDataset (path : String) : IO (Option Contents) := do
  try
    return some (.ofBytes (← IO.FS.readBinFile path))
  catch _ => return none

/-- Writes a file; the answer says whether it could be written. -/
def writeText (path content : String) : IO Bool := do
  try
    IO.FS.writeFile path content
    return true
  catch _ => return false

/-- Tells of a failure and gives its exit code. -/
def fail (failure : Failure) : IO UInt32 := do
  let text := match failure with
    | .usage => "The command line cannot be understood"
    | .error e => e.message
    | .cannotCreate path => "The file cannot be created: '" ++ path ++ "'"
  IO.eprintln ("Error: " ++ text)
  return failure.exitCode.toUInt32

/-- Brings an answer to where it goes. -/
def deliver (output : Output) : IO UInt32 := do
  match output.destination with
  | .standardOutput =>
    match output.content with
    | .ok text =>
      IO.print text
      return 0
    | .error e => fail (.error e)
  | .file path =>
    if !(← writeText path "") then fail (.cannotCreate path)
    else
      match output.content with
      | .ok text =>
        if ← writeText path text then return 0 else fail (.cannotCreate path)
      | .error e => fail (.error e)

end TableExplorer.Cli

open TableExplorer.Cli in
/-- Runs the program. -/
def main (arguments : List String) : IO UInt32 := do
  match Invocation.ofArguments? arguments with
  | none => fail .usage
  | some invocation =>
    let dataset? ← readDataset invocation.dataset
    let text? ← match invocation.config? with
      | some path => readText path
      | none => pure none
    deliver (invocation.output ⟨fun _ => text?, fun _ => dataset?⟩)
