/-!
Stable sorting by a comparison.  `sortBy` inserts one item after the other, each behind all that
are not greater, looking from the end.  Items that compare as equal keep their order; and where a
comparison does not order all items, looking from the end decides where an item stops.
-/

namespace TableExplorer

/-- Inserts an item into items given last one first. -/
def insertFromEnd {α : Type} (cmp : α → α → Ordering) (x : α) : List α → List α
  | [] => [x]
  | e :: rest => if cmp x e = .lt then e :: insertFromEnd cmp x rest else x :: e :: rest

/-- The items in ascending order of the comparison, equal ones in their old order. -/
def sortBy {α : Type} (cmp : α → α → Ordering) (items : List α) : List α :=
  (items.foldl (fun sorted x => insertFromEnd cmp x sorted) []).reverse

/-- The order of texts by their characters, which is also that of their bytes. -/
def compareText (a b : String) : Ordering := compare a b

end TableExplorer
