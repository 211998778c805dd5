import TableExplorer.Sorting

/-!
Grouping.  `representatives` picks the first item of each kind, and `groupBy` lists the groups of
items with equal keys, in ascending order of the keys; a group keeps the order of its items, so its
first item is its representative.
-/

namespace TableExplorer

/-- The first item of each kind, in order. -/
def representatives {α : Type} (same : α → α → Bool) : List α → List α
  | [] => []
  | x :: rest => x :: (representatives same rest).filter fun y => !same x y

/-- The items with a key equal to that of `x`. -/
def groupOf {α κ : Type} (cmp : κ → κ → Ordering) (key : α → κ) (items : List α) (x : α) : List α :=
  items.filter fun y => cmp (key x) (key y) == .eq

/-- The groups of items with equal keys, by ascending keys, each with its first item. -/
def groupBy {α κ : Type} (cmp : κ → κ → Ordering) (key : α → κ) (items : List α) :
    List (α × List α) :=
  let firsts := representatives (fun x y => cmp (key x) (key y) == .eq) items
  (sortBy (fun x y => cmp (key x) (key y)) firsts).map fun x => (x, groupOf cmp key items x)

end TableExplorer
