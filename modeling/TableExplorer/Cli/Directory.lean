import TableExplorer.Identifier

/-!
The directory in which a command runs: files with names and contents, and no directories below it.
`Directory.fileAt?` finds the name that a path denotes, and `Directory.write` puts a content under a
name, whether there is such a file or not.
-/

namespace TableExplorer.Cli

/-- Files by their names. -/
structure Directory where
  files : List (String × String) := []
  deriving DecidableEq, Repr, Inhabited

/-- The longest name of a file, in bytes. -/
def maxFileNameBytes : Nat := 255

/-- The longest path, in bytes. -/
def maxPathBytes : Nat := 4095

/-- The parts of a path between its slashes. -/
def pathParts : List Char → List (List Char)
  | [] => [[]]
  | '/' :: rest => [] :: pathParts rest
  | c :: rest =>
    match pathParts rest with
    | part :: parts => (c :: part) :: parts
    | [] => [[c]]

/-- The name is that of a file, and not too long. -/
def isFileName (name : List Char) : Bool :=
  !name.isEmpty && name != ['.'] && name != ['.', '.'] &&
    decide ((String.ofList name).utf8ByteSize ≤ maxFileNameBytes)

namespace Directory

/-- The name of the file in the directory that a path denotes: its last part, the others being the
directory itself. -/
def fileAt? (path : String) : Option String :=
  let parts := pathParts path.toList
  let above := parts.dropLast
  let here := above.all fun part => part == ['.'] || (part.isEmpty && path.toList.head? != some '/')
  match parts.getLast? with
  | some name =>
    if here && isFileName name && !hasNul path && decide (path.utf8ByteSize ≤ maxPathBytes) then
      some (String.ofList name)
    else none
  | none => none

/-- The content under a name. -/
def read? (d : Directory) (name : String) : Option String := d.files.lookup name

/-- Puts a content under a name. -/
def write (d : Directory) (name content : String) : Directory :=
  ⟨(d.files.filter fun file => file.1 != name) ++ [(name, content)]⟩

end Directory

end TableExplorer.Cli
