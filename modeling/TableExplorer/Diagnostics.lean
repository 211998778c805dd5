import TableExplorer.Text.Blank
import TableExplorer.Word

/-!
What is told about the work beside its answers.

* `LogConfig` says which events are told at all.
* `clipStatement?` is the text of a statement as it is told: on one line, and cut at a length.
* `LogFilter.text` are the directives that choose which events are shown.
-/

namespace TableExplorer

/-- Which events are told; by default the progress through tables without the statements. -/
structure LogConfig where
  logQueries : Bool := false
  logTableProgress : Bool := true
  /-- Statements longer than this are cut. -/
  maxSqlChars : Nat := 256
  deriving DecidableEq, Repr, Inhabited

namespace LogConfig

/-- Everything is told, and statements nearly whole. -/
def verbose : LogConfig := ⟨true, true, 2048⟩

/-- Nothing optional is told. -/
def production : LogConfig := ⟨false, false, 256⟩

/-- The progress is told without the statements. -/
def balanced : LogConfig := {}

end LogConfig

/-- The mark of a text that was cut. -/
def cutMark : Char := '…'

/-- Writes the characters of one word behind the `taken` ones, of which there may be `maxChars`, and
tells how many are taken then, which is `none` if the text was cut.  Characters are counted in words
of 64 bits: nothing is written if a count leaves their range. -/
def clipWord? (maxChars taken : Nat) : List Char → Option (List Char × Option Nat)
  | [] => some ([], some taken)
  | c :: rest =>
    if taken = maxChars then some ([cutMark], none)
    else do
      let (written, taken?) ← clipWord? maxChars (← Word.size? (taken + 1)) rest
      return (c :: written, taken?)

/-- Writes words behind the `taken` characters, with a space before each word that does not stand
first, up to the place where the text is cut. -/
def clipWords? (maxChars taken : Nat) : List (List Char) → Option (List Char)
  | [] => some []
  | word :: rest => do
    let (written, taken?) ← clipWord? maxChars taken (if 0 < taken then ' ' :: word else word)
    match taken? with
    | none => return written
    | some taken => return written ++ (← clipWords? maxChars taken rest)

/-- The bytes that are set aside for a statement before it is written: one for each character and
one for the mark, but no more than the statement has. -/
def reservedBytes? (statement : String) (maxChars : Nat) : Option Nat :=
  (Word.size? (maxChars + 1)).map (min statement.utf8ByteSize)

/-- The statement on one line, every run of blanks being one space, cut behind `maxChars`
characters; `none` if a count leaves the range of words. -/
def clipStatement? (statement : String) (maxChars : Nat) : Option String := do
  let _ ← reservedBytes? statement maxChars
  let written ← clipWords? maxChars 0 (Text.words statement)
  return String.ofList written

/-- Which events are shown, and how. -/
structure LogFilter where
  verbose : Bool := false
  json : Bool := false
  /-- Further directives, in order. -/
  directives : List String := []
  deriving DecidableEq, Repr, Inhabited

/-- The directives of a filter: warnings of others, and our own events by the verbosity. -/
def LogFilter.text (f : LogFilter) : String :=
  ",".intercalate
    ("warn" :: ("tabula=" ++ if f.verbose then "debug" else "info") :: f.directives)

end TableExplorer
