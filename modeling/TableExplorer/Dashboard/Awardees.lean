import TableExplorer.Config.Basic
import TableExplorer.Dashboard.Selection

/-!
Awardees.  Names that differ in accents and case only are one awardee.
-/

namespace TableExplorer

/-- How often an awardee occurs, under all spellings that fold to one key. -/
structure AwardeeCount where
  key : String
  /-- The first spelling. -/
  display : String
  count : Nat
  deriving DecidableEq, Repr, Inhabited

/-- The awardee of a record, without the spaces around it. -/
def Selection.awardeeName (s : Selection) (column : Identifier) (record : Record) : Result String :=
  shownText ((s.trimmed? column record).getD ByteArray.empty)

/-- How an awardee of this name is shown. -/
def Config.awardeeLabel (config : Config) (name : String) : String :=
  if name.isEmpty then config.blankAwardeeLabel else name

namespace AwardeeCount

/-- One record more, if the awardee has this key. -/
def raise (key : String) (entry : AwardeeCount) : AwardeeCount :=
  if entry.key = key then { entry with count := entry.count + 1 } else entry

/-- Counts one name more: for the awardee of its folded form, or as a new one behind the others,
which is shown as it is spelled here. -/
def addName (config : Config) (entries : List AwardeeCount) (name : String) : List AwardeeCount :=
  let key := Text.fold name
  if entries.any fun entry => entry.key == key then entries.map (raise key)
  else entries ++ [⟨key, config.awardeeLabel name, 1⟩]

end AwardeeCount

/-- The awardees of some names, which are counted one after the other. -/
def countAwardees (config : Config) (names : List String) : List AwardeeCount :=
  names.foldl (AwardeeCount.addName config) []

/-- The awardees, the most frequent first, as many as are kept of one table. -/
def Selection.awardees (s : Selection) (config : Config) (column : Identifier) :
    Result (List AwardeeCount) := do
  let names ← s.records.mapM (s.awardeeName column)
  let sorted := sortBy
    (fun (a b : AwardeeCount) => (compare b.count a.count).then (compareText a.key b.key))
    (countAwardees config names)
  return sorted.take config.awardeesPerTable

end TableExplorer
