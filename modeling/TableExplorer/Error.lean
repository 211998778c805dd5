/-!
What can go wrong, by cause, and the text that tells it.  `Error.message` is the only place where
the texts are put together.
-/

namespace TableExplorer

/-- The causes of failure. -/
inductive Error where
  /-- The tables and columns could not be listed. -/
  | metadata (detail : String)
  /-- A statement on the rows failed. -/
  | query (detail : String)
  /-- No table has this name. -/
  | tableNotFound (table : String)
  /-- The table has no column of this name. -/
  | columnNotFound (table column : String)
  /-- A name or a search text was refused before it reached the rows. -/
  | security (reason : String)
  /-- The configuration cannot be used. -/
  | configuration (reason : String)
  /-- A file could not be read or written. -/
  | io (detail : String)
  /-- The comma-separated text could not be written. -/
  | csv (detail : String)
  /-- A JSON text could not be read as what it should be. -/
  | serialization (detail : String)
  /-- Anything else. -/
  | internal (detail : String)
  deriving DecidableEq, Repr, Inhabited

namespace Error

/-- The text that tells of the failure. -/
def message : Error → String
  | metadata detail => "Metadata query failed: " ++ detail
  | query detail => "Query execution failed: " ++ detail
  | tableNotFound table => "Table not found: '" ++ table ++ "'"
  | columnNotFound table column =>
    "Column not found: '" ++ column ++ "' in table '" ++ table ++ "'"
  | security reason => "Security error: " ++ reason
  | configuration reason => "Invalid configuration: " ++ reason
  | io detail => "I/O error: " ++ detail
  | csv detail => "CSV error: " ++ detail
  | serialization detail => "Serialization error: " ++ detail
  | internal detail => "Internal error: " ++ detail

/-- The failure lies in a name, or in the listing of names. -/
def isMetadata : Error → Bool
  | metadata _ | tableNotFound _ | columnNotFound _ _ => true
  | _ => false

/-- A failure while names were listed, told with what was being done. -/
def inContext (context detail : String) : Error := .metadata (context ++ ": " ++ detail)

end Error

/-- A result, or the cause of its failure. -/
abbrev Result (α : Type) := Except Error α

end TableExplorer
