/-!
Pages of a list.  A `PageWindow` says which part of a list of `total` rows one page shows;
`PageWindow.compute` takes any requested page, and serves the first or the last one if there is no
such page.
-/

namespace TableExplorer

/-- The part of a list that one page shows. -/
structure PageWindow where
  /-- The page that is served, counted from one. -/
  page : Nat
  /-- How many pages there are; an empty list has one. -/
  pages : Nat
  pageSize : Nat
  /-- How many rows come before the page. -/
  offset : Nat
  /-- How many rows are on the page. -/
  limit : Nat
  total : Nat
  deriving DecidableEq, Repr, Inhabited

namespace PageWindow

/-- The window of the requested page; a page has room for at least one row. -/
def compute (total pageSize : Nat) (requested : Int) : PageWindow :=
  let pageSize := max pageSize 1
  let pages := max ((total + pageSize - 1) / pageSize) 1
  let page := min (max requested 1).toNat pages
  let offset := (page - 1) * pageSize
  ⟨page, pages, pageSize, offset, min pageSize (total - offset), total⟩

/-- No page comes after this one. -/
def isLast (w : PageWindow) : Bool := w.page == w.pages

/-- The rows that the page shows. -/
def slice {α : Type} (w : PageWindow) (rows : List α) : List α := (rows.drop w.offset).take w.limit

end PageWindow

end TableExplorer
