import TableExplorer.Histogram
import TableExplorer.Json.Decoder
import TableExplorer.Json.Reader

/-!
Values and requests as JSON: what programs send.
-/

namespace TableExplorer

/-- Reads a value: integers that a cell can hold are integers, and all other numbers are reals. -/
def Value.ofJson? : Json → Option Value
  | .null => some .null
  | .integer i => some ((Word.int64? i).elim (.real (.ofInt i)) .integer)
  | .real x => some (.real x)
  | .string s => some (.text s)
  | _ => none

/-- Reads the text of a value. -/
def Value.load (text : String) : Result Value :=
  match (Json.ofText? text).bind Value.ofJson? with
  | some v => .ok v
  | none => .error (.serialization "not a value")

/-- The direction of this name. -/
def Direction.ofName? (name : String) : Option Direction :=
  if name = Direction.ascending.name then some .ascending
  else if name = Direction.descending.name then some .descending
  else none

/-- Reads a direction: its name, or an object with nothing under its name. -/
def Direction.ofJson? : Json → Option Direction
  | .string name => ofName? name
  | .object [(name, .null)] => ofName? name
  | _ => none

/-- Reads an order; the direction must be given. -/
def SortOrder.ofJson? (json : Json) : Option SortOrder := do
  let fields ← json.toFields? ["column", "direction"]
  return {
    column? := ← fields.optional "column" (Json.toOption? Json.toString?) none
    direction := ← fields.required "direction" Direction.ofJson? }

/-- Reads a request for a page.  Everything may be missing; the page is then the page zero. -/
def TableRequest.ofJson? (json : Json) : Option TableRequest := do
  let fields ← json.toFields? ["table", "query", "sort", "page", "page_size"]
  return {
    table := ← fields.optional "table" Json.toString? ""
    query := ← fields.optional "query" Json.toString? ""
    sort := ← fields.optional "sort" SortOrder.ofJson? {}
    page := (← fields.optional "page" Json.toInt64? 0).toInt
    pageSize? := ← fields.optional "page_size" (Json.toOption? Json.toSize?) none }

/-- Reads a request for a histogram; the table and the column must be given. -/
def HistogramRequest.ofJson? (json : Json) : Option HistogramRequest := do
  let fields ← json.toFields? ["table", "column", "query", "limit", "direction", "rank_by_count"]
  return {
    table := ← fields.required "table" Json.toString?
    column := ← fields.required "column" Json.toString?
    query := ← fields.optional "query" Json.toString? ""
    limit? := ← fields.optional "limit" (Json.toOption? Json.toSize?) none
    direction := ← fields.optional "direction" Direction.ofJson? .ascending
    byCount := ← fields.optional "rank_by_count" Json.toBool? true }

end TableExplorer
