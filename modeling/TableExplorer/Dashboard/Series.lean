import TableExplorer.Dashboard.Selection

/-!
Series that are stacked by table.  Each table contributes values under keys; the series has one axis
of labels for all of them.

* `rank` makes an axis: one label for each key, in the order of a ranking.
* `align` reads the values of each table along an axis, with zero where a table has none, and adds
  them up; `combine` does both.
-/

namespace TableExplorer

/-- Values that can be added up and ranked. -/
class Metric (α : Type) extends Add α, Zero α where
  /-- The order of two values, unless they cannot be compared. -/
  compare? : α → α → Option Ordering

instance : Metric Nat where
  add := Nat.add
  zero := 0
  compare? m n := some (compare m n)

instance : Metric Binary64 where
  compare? := Binary64.compare?

/-- A value under a key, and how the key is shown. -/
structure SeriesEntry (α : Type) where
  key : String
  display : String
  value : α
  deriving Inhabited

/-- What one table contributes to a series. -/
structure Contribution (α : Type) where
  table : String
  entries : List (SeriesEntry α)
  deriving Inhabited

/-- The values of one table along an axis. -/
structure Stack (α : Type) where
  table : String
  values : List α
  deriving DecidableEq, Inhabited

/-- An axis of labels, the totals along it, and the values of each table. -/
structure StackedSeries (α : Type) where
  labels : List String := []
  totals : List α := []
  byTable : List (Stack α) := []
  deriving DecidableEq, Inhabited

namespace StackedSeries

variable {α : Type}

/-- There are no labels. -/
def isEmpty (s : StackedSeries α) : Bool := s.labels.isEmpty

/-- The total of a label. -/
def totalOf? (s : StackedSeries α) (label : String) : Option α := do
  s.totals[← s.labels.findIdx? fun l => l == label]?

/-- The values of a table. -/
def stackOf? (s : StackedSeries α) (table : String) : Option (List α) :=
  (s.byTable.find? fun stack => stack.table == table).map (·.values)

end StackedSeries

/-- The order of the labels on an axis. -/
inductive Ranking where
  /-- The largest total first, equal ones by the way they are shown. -/
  | byTotal
  /-- By the keys. -/
  | byKey
  deriving DecidableEq, Repr

section

variable {α : Type} [Metric α]

/-- The values under a key, added up from zero. -/
def valueAt (entries : List (SeriesEntry α)) (key : String) : α :=
  (entries.filter fun e => e.key == key).foldl (fun sum e => sum + e.value) 0

/-- The values under the key of the first of some entries, added up from its own. -/
def totalFrom (first : SeriesEntry α) (rest : List (SeriesEntry α)) : SeriesEntry α :=
  ⟨first.key, first.display,
    (rest.filter fun e => first.key == e.key).foldl (fun sum e => sum + e.value) first.value⟩

/-- One entry for each key, with the total of its values, in the order of first occurrence. -/
def totalsByKey : List (SeriesEntry α) → List (SeriesEntry α)
  | [] => []
  | first :: rest =>
    totalFrom first rest :: (totalsByKey rest).filter fun e => !first.key == e.key

/-- The order of two entries in a ranking. -/
def Ranking.compareEntries : Ranking → SeriesEntry α → SeriesEntry α → Ordering
  | .byTotal, a, b =>
    ((Metric.compare? b.value a.value).getD .eq).then (compareText a.display b.display)
  | .byKey, a, b => compareText a.key b.key

/-- The axis of some contributions: its keys and how they are shown. -/
def rank (ranking : Ranking) (limit? : Option Nat) (contributions : List (Contribution α)) :
    List (SeriesEntry α) :=
  let ranked := sortBy ranking.compareEntries (totalsByKey (contributions.flatMap (·.entries)))
  match limit? with
  | some limit => ranked.take limit
  | none => ranked

/-- The values of one table along an axis of keys. -/
def Contribution.stack (axis : List String) (c : Contribution α) : Stack α :=
  ⟨c.table, axis.map (valueAt c.entries)⟩

/-- The values of all tables added up along an axis of so many keys. -/
def addStacks (length : Nat) (byTable : List (Stack α)) : List α :=
  byTable.foldl (fun totals stack => totals.zipWith (· + ·) stack.values) (List.replicate length 0)

/-- The series of some contributions along an axis of keys, which are shown as the labels. -/
def align {β : Type} (axis : List (SeriesEntry β)) (contributions : List (Contribution α)) :
    StackedSeries α :=
  let byTable := contributions.map fun c => c.stack (axis.map (·.key))
  ⟨axis.map (·.display), addStacks axis.length byTable, byTable⟩

/-- The series of some contributions along their own axis. -/
def combine (ranking : Ranking) (limit? : Option Nat) (contributions : List (Contribution α)) :
    StackedSeries α :=
  align (rank ranking limit? contributions) contributions

end

end TableExplorer
