import TableExplorer.Catalogue

/-!
Which columns of a table play which part in a summary.
-/

namespace TableExplorer

/-- The columns of one table that play a part. -/
structure TableRoles where
  recordType? : Option String := none
  amount? : Option String := none
  awardee? : Option String := none
  recordId? : Option String := none
  description? : Option String := none
  date? : Option String := none
  deriving DecidableEq, Repr, Inhabited

/-- Finds the columns that play a part, by the configured candidates; the date column is the one
that the conventions give to tables of this name. -/
def TableRoles.resolve (config : Config) (table : String) (columns : List String) : TableRoles where
  recordType? := pickColumn? columns config.roles.recordType
  amount? := pickColumn? columns config.roles.amount
  awardee? := pickColumn? columns config.roles.awardee
  recordId? := pickColumn? columns config.roles.recordId
  description? := pickColumn? columns config.roles.description
  date? := (config.dateColumn? table).bind fun column => pickColumn? columns [column]

end TableExplorer
