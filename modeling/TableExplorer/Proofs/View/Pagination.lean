import TableExplorer.Proofs.View.Reading

/-!
Pages: the windows of a list cover it from end to end, so that the pages of a table, one after the
other, hold all of its rows.

* `PageWindow.flatMap_slice`: **the windows of a list cover it**, each row once.
* `pages_concat_loadAll`: **the pages of a table are all of its rows**.
-/

namespace TableExplorer

namespace PageWindow

variable {α : Type}

/-- The rows before a cut, and those of the next window. -/
lemma flatMap_range_chunks (rows : List α) (size k : Nat) :
    (List.range k).flatMap (fun i => (rows.drop (i * size)).take size) = rows.take (k * size) := by
  induction k with
  | zero => rw [List.range_zero, List.flatMap_nil, Nat.zero_mul, List.take_zero]
  | succ k ih =>
      rw [List.range_succ, List.flatMap_append, ih, List.flatMap_singleton, Nat.succ_mul,
        List.take_add]

/-- There is room for all rows on the pages. -/
lemma le_pages_mul (total size : Nat) (n : Int) :
    total ≤ (compute total size n).pages * max size 1 := by
  have hpos : 0 < max size 1 := by omega
  -- the quotient is rounded up, so that what is left over has a page of its own
  have hdiv : total ≤ (total + max size 1 - 1) / max size 1 * max size 1 := by
    have hmod := Nat.mod_lt (total + max size 1 - 1) hpos
    have hadd := Nat.div_add_mod' (total + max size 1 - 1) (max size 1)
    omega
  exact hdiv.trans (Nat.mul_le_mul_right _ (Nat.le_max_left _ 1))

/-- A page that exists starts behind the pages before it. -/
lemma offset_of_lt_pages {total size i : Nat} (h : i < (compute total size 1).pages) :
    (compute total size (i + 1)).offset = i * max size 1 := by
  have hpage : (compute total size (i + 1)).page = i + 1 := by
    have hto : (max (i + 1 : Int) 1).toNat = i + 1 := by omega
    change min (max (i + 1 : Int) 1).toNat (compute total size 1).pages = i + 1
    rw [hto]
    omega
  change ((compute total size (i + 1)).page - 1) * max size 1 = i * max size 1
  rw [hpage, Nat.add_sub_cancel]

/-- The rows of a page that exists. -/
lemma slice_of_lt_pages (rows : List α) {size i : Nat}
    (h : i < (compute rows.length size 1).pages) :
    (compute rows.length size (i + 1)).slice rows =
      (rows.drop (i * max size 1)).take (max size 1) := by
  have hlimit : (compute rows.length size (i + 1)).limit =
      min (max size 1) (rows.drop (i * max size 1)).length := by
    rw [List.length_drop, ← offset_of_lt_pages h]
    rfl
  rw [slice, hlimit, offset_of_lt_pages h, ← List.take_eq_take_min]

/-- **The windows of a list cover it**: one after the other, they hold each row once. -/
theorem flatMap_slice (rows : List α) (size : Nat) :
    (List.range (compute rows.length size 1).pages).flatMap
      (fun (i : Nat) => (compute rows.length size (i + 1)).slice rows) = rows := by
  have hchunks : (List.range (compute rows.length size 1).pages).flatMap
      (fun (i : Nat) => (compute rows.length size (i + 1)).slice rows) =
        (List.range (compute rows.length size 1).pages).flatMap
          fun i => (rows.drop (i * max size 1)).take (max size 1) :=
    List.flatMap_congr fun i hi => slice_of_lt_pages rows (List.mem_range.mp hi)
  rw [hchunks, flatMap_range_chunks, List.take_of_length_le (le_pages_mul _ _ _)]

end PageWindow

/-! ### The pages of a table -/

/-- Putting records in order keeps all of them. -/
lemma OrderClause.arrange_perm (order : OrderClause) (rel : Relation) (records : List Record) :
    (order.arrange rel records).Perm records := by
  rw [arrange]
  split
  · refine ((sortBy_perm _ _).map _).trans (List.Perm.of_eq ?_)
    rw [List.map_map]
    exact List.map_id records
  · exact List.Perm.refl _

/-- There is one row for each record that is found. -/
lemma TableReading.length_rows {contents : Contents} {config : Config} {request : TableRequest}
    (r : TableReading contents config request) :
    r.rows.length = (r.view.search.matching r.relation).length := by
  rw [rows, List.length_map, records, (OrderClause.arrange_perm _ _ _).length_eq]

/-- **The pages of a table are all of its rows.**  If a table is loaded, then each of its pages is,
whatever page is asked for and whatever the size of a page; all pages agree on how many rows and
pages there are and on the style of the column that the rows are sorted by; and the pages that
exist, one after the other, are the rows in their order. -/
theorem pages_concat_loadAll {contents : Contents} {config : Config} {request : TableRequest}
    {columns : List Column} {rows : List Row}
    (h : loadAll contents config request = .ok (columns, rows)) (size? : Option Nat) :
    ∃ (page : Int → TablePage) (pages : Nat) (style : AmountStyle),
      (∀ n : Int,
        loadPage contents config { request with page := n, pageSize? := size? } = .ok (page n) ∧
        (page n).window.total = rows.length ∧ (page n).window.pages = pages ∧
        (page n).sortStyle = style) ∧
      (List.range pages).flatMap (fun (i : Nat) => (page (i + 1)).rows) = rows := by
  obtain ⟨r, rfl, rfl⟩ := TableReading.exists_of_loadAll h
  let window (n : Int) : PageWindow :=
    PageWindow.compute r.rows.length (size?.getD config.defaultPageSize) n
  refine ⟨fun n => ⟨request.table, r.view.search.query, r.view.columns, (window n).slice r.rows,
    window n, request.sort, r.view.order.style⟩, (window 1).pages, r.view.order.style,
    fun n => ⟨?_, rfl, rfl, rfl⟩, ?_⟩
  · have hpage := r.loadPage_eq n size?
    rw [← r.length_rows] at hpage
    exact hpage
  · exact PageWindow.flatMap_slice r.rows _

/-- Three records in the order of their column, on pages of two. -/
theorem pages_of_three_records :
    loadAll (.dataset (.ofCells [.integer 3, .integer 1, .integer 2])) {}
        { table := "T", sort := ⟨some "A", .ascending⟩ } =
      .ok ([⟨"a", ""⟩], [⟨[("a", .integer 1)]⟩, ⟨[("a", .integer 2)]⟩, ⟨[("a", .integer 3)]⟩]) ∧
    ∃ (page : Int → TablePage) (pages : Nat) (style : AmountStyle),
      (∀ n : Int,
        loadPage (.dataset (.ofCells [.integer 3, .integer 1, .integer 2])) {}
          { table := "T", sort := ⟨some "A", .ascending⟩, page := n, pageSize? := some 2 } =
            .ok (page n) ∧
        (page n).window.total = 3 ∧ (page n).window.pages = pages ∧
        (page n).sortStyle = style) ∧
      (List.range pages).flatMap (fun (i : Nat) => (page (i + 1)).rows) =
        [⟨[("a", .integer 1)]⟩, ⟨[("a", .integer 2)]⟩, ⟨[("a", .integer 3)]⟩] := by
  have hloaded : loadAll (.dataset (.ofCells [.integer 3, .integer 1, .integer 2])) {}
      { table := "T", sort := ⟨some "A", .ascending⟩ } =
        .ok ([⟨"a", ""⟩],
          [⟨[("a", .integer 1)]⟩, ⟨[("a", .integer 2)]⟩, ⟨[("a", .integer 3)]⟩]) := by
    decide +kernel
  exact ⟨hloaded, pages_concat_loadAll hloaded (some 2)⟩

end TableExplorer
