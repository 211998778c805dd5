import Mathlib
import TableExplorer.Proofs.Dataset.Names
import TableExplorer.Proofs.Dataset.Relations
import TableExplorer.Proofs.Sorting
import TableExplorer.Proofs.View.FoldedSearch
import TableExplorer.View.Page

/-!
Readings: what a view of a table comes to before it is cut into pages.  A `TableReading` is a view
together with the relation that it reads and the identifiers that it shows; its `rows` are the rows
of the records that are found, in order.

* `TableReading.loadAll_eq`, `TableReading.loadPage_eq`: both ways to load a table succeed on a
  reading, the one with its rows and the other with a window of them.
* `TableReading.exists_of_loadAll`: **a table that is loaded has a reading**.
* `TableRequest.Checked`: the requests that pass all checks; `Relation.Searchable`: the relations
  that a statement can search; `TableRequest.Checked.load_eq_error`: **no others are loaded**.
* `TableRequest.Served`: the requests that a dataset can serve; `TableReading.exists_of_served`:
  **a served request has a reading**, and `TableReading.served`: only such a request has one.
-/

namespace TableExplorer

/-- A view of a table with the relation that it reads and the identifiers that it shows. -/
structure TableReading (contents : Contents) (config : Config) (request : TableRequest) where
  view : Prepared
  source : Identifier
  relation : Relation
  identifiers : List Identifier
  prepared : prepare contents config request = .ok view
  named : source.name = request.table
  fits : view.search.checkDepth 0 = .ok ()
  found : contents.source source = .ok relation
  projected : identifiers.map (·.name) = columnNames view.columns

namespace TableReading

variable {contents : Contents} {config : Config} {request : TableRequest}

/-- The records that are found, in order. -/
def records (r : TableReading contents config request) : List Record :=
  r.view.order.arrange r.relation (r.view.search.matching r.relation)

/-- The rows of the records that are found, in order. -/
def rows (r : TableReading contents config request) : List Row :=
  r.records.map (rowOf r.relation r.identifiers)

/-! ### Loading a reading -/

/-- The rows of a slice of the records. -/
lemma fetchRows_eq (r : TableReading contents config request)
    (slice : List Record → List Record) :
    fetchRows contents request.table r.view slice =
      .ok ((slice r.records).map (rowOf r.relation r.identifiers)) := by
  rw [fetchRows, Identifier.ofName_eq_ok_iff.mpr r.named,
    Identifier.mapM_ofName_eq_ok_iff.mpr r.projected]
  simp only [bind, Except.bind, r.fits, r.found]
  rfl

/-- The number of records that are found. -/
lemma countRows_eq (r : TableReading contents config request) :
    countRows contents request.table r.view.search =
      .ok (r.view.search.matching r.relation).length := by
  rw [countRows, Identifier.ofName_eq_ok_iff.mpr r.named]
  simp only [bind, Except.bind, r.fits, r.found]
  rfl

/-- All rows are loaded. -/
lemma loadAll_eq (r : TableReading contents config request) :
    loadAll contents config request = .ok (r.view.columns, r.rows) := by
  rw [loadAll, r.prepared]
  simp only [bind, Except.bind, r.fetchRows_eq]
  rfl

/-- Any page is loaded, with its window of the rows. -/
lemma loadPage_eq (r : TableReading contents config request) (n : Int) (size? : Option Nat) :
    let window := PageWindow.compute (r.view.search.matching r.relation).length
      (size?.getD config.defaultPageSize) n
    loadPage contents config { request with page := n, pageSize? := size? } =
      .ok ⟨request.table, r.view.search.query, r.view.columns, window.slice r.rows, window,
        request.sort, r.view.order.style⟩ := by
  intro window
  have hprepared : prepare contents config { request with page := n, pageSize? := size? } =
      .ok r.view := r.prepared
  have hslice : (window.slice r.records).map (rowOf r.relation r.identifiers) =
      window.slice r.rows := by
    rw [PageWindow.slice, PageWindow.slice, rows, List.map_take, List.map_drop]
  rw [loadPage, hprepared]
  simp only [bind, Except.bind, r.countRows_eq]
  by_cases hlimit : window.limit = 0
  · have hempty : window.slice r.rows = [] := by
      rw [PageWindow.slice, hlimit, List.take_zero]
    rw [if_pos hlimit, hempty]
    rfl
  · rw [if_neg hlimit, r.fetchRows_eq, hslice]
    rfl

/-- A view whose rows are read is that of a reading. -/
lemma exists_of_fetchRows {view : Prepared} {slice : List Record → List Record} {rows : List Row}
    (hview : prepare contents config request = .ok view)
    (hfetch : fetchRows contents request.table view slice = .ok rows) :
    ∃ r : TableReading contents config request, r.view = view ∧
      rows = (slice r.records).map (rowOf r.relation r.identifiers) := by
  obtain ⟨source, hsource, hfetch⟩ := Result.bind_eq_ok_iff.mp hfetch
  obtain ⟨ids, hids, hfetch⟩ := Result.bind_eq_ok_iff.mp hfetch
  obtain ⟨_, hfits, hfetch⟩ := Result.bind_eq_ok_iff.mp hfetch
  obtain ⟨rel, hrel, hfetch⟩ := Result.bind_eq_ok_iff.mp hfetch
  exact ⟨⟨view, source, rel, ids, hview, Identifier.ofName_eq_ok_iff.mp hsource, hfits, hrel,
    Identifier.mapM_ofName_eq_ok_iff.mp hids⟩, rfl, (Except.ok.inj hfetch).symm⟩

/-- **A table that is loaded has a reading.** -/
theorem exists_of_loadAll {columns : List Column} {rows : List Row}
    (h : loadAll contents config request = .ok (columns, rows)) :
    ∃ r : TableReading contents config request, r.view.columns = columns ∧ r.rows = rows := by
  obtain ⟨view, hview, h⟩ := Result.bind_eq_ok_iff.mp h
  obtain ⟨rows', hfetch, h⟩ := Result.bind_eq_ok_iff.mp h
  cases h
  obtain ⟨r, rfl, hrows⟩ := exists_of_fetchRows hview hfetch
  exact ⟨r, rfl, hrows.symm⟩

/-- **A page with a row is one of a reading**, and the row is one of its rows. -/
theorem exists_of_mem_loadPage {page : TablePage} {row : Row}
    (hpage : loadPage contents config request = .ok page) (hrow : row ∈ page.rows) :
    ∃ r : TableReading contents config request, r.view.columns = page.columns ∧ row ∈ r.rows := by
  obtain ⟨view, hview, hpage⟩ := Result.bind_eq_ok_iff.mp hpage
  obtain ⟨total, -, hpage⟩ := Result.bind_eq_ok_iff.mp hpage
  dsimp only at hpage
  split_ifs at hpage
  · rw [pure_bind] at hpage
    rw [← Except.ok.inj hpage] at hrow
    cases hrow
  · obtain ⟨rows, hfetch, hpage⟩ := Result.bind_eq_ok_iff.mp hpage
    obtain ⟨r, rfl, rfl⟩ := exists_of_fetchRows hview hfetch
    rw [← Except.ok.inj hpage] at hrow ⊢
    obtain ⟨record, hrecord, rfl⟩ := List.mem_map.mp hrow
    exact ⟨r, rfl, List.mem_map_of_mem (List.mem_of_mem_drop (List.mem_of_mem_take hrecord))⟩

end TableReading

/-! ### Requests that are served -/

/-- A request passes all checks: there is a table of this name with columns, all names can be
written, the text can be searched for, and the column to sort by is there. -/
structure TableRequest.Checked (request : TableRequest) (d : Dataset) (rel : Relation) : Prop where
  table_valid : Identifier.fault? request.table = none
  found : d.relation? request.table = some rel
  columns_valid : ∀ name ∈ columnNames rel.columns, Identifier.fault? name = none
  columns_ne_nil : rel.columns ≠ []
  query_valid : checkSearchText request.query = .ok ()
  sort_known : ∀ column, request.sort.column? = some column → hasColumn rel.columns column = true

/-- A statement can search a relation for a text: its records can be read, and unless the text is
blank, it has no more columns than a statement can search. -/
structure Relation.Searchable (rel : Relation) (query : String) : Prop where
  readable : rel.failure? = none
  fits : (Text.trim query).isEmpty = true ∨ rel.columns.length ≤ Search.maxColumns

/-- A dataset can serve a request: it passes all checks, and the table can be searched for the
text. -/
structure TableRequest.Served (request : TableRequest) (d : Dataset) (rel : Relation) : Prop
    extends request.Checked d rel where
  searchable : rel.Searchable request.query

/-- A relation has no more columns than a statement can search if and only if the statement does not
get too deep. -/
lemma Relation.checkDepth_eq_ok_iff {rel : Relation} {query : String} {search : Search}
    (hsearch : Search.ofQuery (columnNames rel.columns) query = .ok search) :
    search.checkDepth 0 = .ok () ↔
      (Text.trim query).isEmpty = true ∨ rel.columns.length ≤ Search.maxColumns := by
  rw [Search.checkDepth_eq_ok_iff, Nat.add_zero, Search.depth_le_iff hsearch, columnNames,
    List.length_map]

/-- A relation that can be searched is read; from any other a statement fails. -/
lemma Relation.searchable_or_error {d : Dataset} {table : Identifier} {rel : Relation}
    {query : String} {search : Search} (hfound : d.relation? table.name = some rel)
    (hsearch : Search.ofQuery (columnNames rel.columns) query = .ok search) :
    rel.Searchable query ∧ search.checkDepth 0 = .ok () ∧
        Contents.source (.dataset d) table = .ok rel ∨
      ¬rel.Searchable query ∧ ∃ detail,
        (search.checkDepth 0 >>= fun _ => Contents.source (.dataset d) table) =
          .error (.query detail) := by
  by_cases hfits : (Text.trim query).isEmpty = true ∨ rel.columns.length ≤ Search.maxColumns
  · have hdepth := (checkDepth_eq_ok_iff hsearch).mpr hfits
    rw [hdepth, Result.ok_bind]
    cases hfailure : rel.failure? with
    | none =>
        exact .inl ⟨⟨hfailure, hfits⟩, rfl, Contents.source_eq_ok_iff.mpr ⟨hfound, hfailure⟩⟩
    | some detail =>
        refine .inr ⟨fun h => (nomatch hfailure.symm.trans h.readable), detail, ?_⟩
        simp only [Contents.source, hfound, hfailure]
  · refine .inr ⟨fun h => hfits h.fits, Search.tooDeepDetail, ?_⟩
    have hdeep : maxDepth < search.depth + 0 := not_le.mp fun h =>
      hfits ((checkDepth_eq_ok_iff hsearch).mp (Search.checkDepth_eq_ok_iff.mpr h))
    rw [Search.checkDepth_eq_error hdeep]
    rfl

/-- The columns of a table that is there are listed unless there are none or its name ends early. -/
lemma Contents.columns_eq_ok_iff_of_notMem {d : Dataset} {table : String} {rel : Relation}
    {columns : List Column} (hnul : '\x00' ∉ table.toList)
    (hfound : d.relation? table = some rel) :
    Contents.columns (.dataset d) table = .ok columns ↔
      columns = rel.columns ∧ rel.columns ≠ [] := by
  simp only [Contents.columns, Contents.read, bind, Except.bind, beforeNul_of_notMem hnul, hfound]
  by_cases hnil : rel.columns = []
  · rw [if_pos (List.isEmpty_iff.mpr hnil)]
    refine ⟨fun h => ?_, fun h => absurd hnil h.2⟩
    cases h
  · rw [if_neg (List.isEmpty_iff.not.mpr hnil)]
    exact ⟨fun h => ⟨(Except.ok.inj h).symm, hnil⟩, fun h => h.1 ▸ rfl⟩

/-- Under a name under which nothing can be read, no columns are listed: a view or module of this
name shows nothing, and a table of this name is not there. -/
lemma Contents.columns_of_none {d : Dataset} {table : String} (hnul : '\x00' ∉ table.toList)
    (hnone : d.relation? table = none) :
    Contents.columns (.dataset d) table =
      .error (if d.isDeclared table then
        .inContext ("reading columns of '" ++ table ++ "'") unreadableNameDetail
      else .tableNotFound table) := by
  simp only [Contents.columns, Contents.read, bind, Except.bind, beforeNul_of_notMem hnul, hnone]
  split <;> rfl

/-- The columns of a table whose name can be written are listed, unless there are none. -/
lemma Contents.columns_eq_ok_iff {d : Dataset} {table : String} {rel : Relation}
    {columns : List Column} (hvalid : Identifier.fault? table = none)
    (hfound : d.relation? table = some rel) :
    Contents.columns (.dataset d) table = .ok columns ↔
      columns = rel.columns ∧ rel.columns ≠ [] :=
  columns_eq_ok_iff_of_notMem (Identifier.nul_notMem_of_valid hvalid) hfound

namespace TableRequest.Checked

variable {request : TableRequest} {d : Dataset} {rel : Relation}

/-- The columns of the table are listed. -/
lemma columns_eq (h : request.Checked d rel) :
    Contents.columns (.dataset d) request.table = .ok rel.columns :=
  (Contents.columns_eq_ok_iff h.table_valid h.found).mpr ⟨rfl, h.columns_ne_nil⟩

/-- The column to sort by can be written. -/
lemma sort_valid (h : request.Checked d rel) {column : String}
    (hcolumn : request.sort.column? = some column) : Identifier.fault? column = none := by
  obtain ⟨c, hc, hsame⟩ := List.any_eq_true.mp (h.sort_known column hcolumn)
  exact Identifier.fault?_eq_none_of_sameName hsame
    (h.columns_valid c.name (List.mem_map_of_mem hc))

/-- The order of a request: none without a column to sort by, and else that of the column
in the style that is found for it. -/
lemma resolveOrder_eq (h : request.Checked d rel) (config : Config) (search : Search) :
    ∃ order, resolveOrder (.dataset d) config request rel.columns search = .ok order ∧
      (request.sort.column? = none → order.key? = none) ∧
      ∀ column, request.sort.column? = some column →
        ∃ key : SortKey, order.key? = some key ∧ order.direction = request.sort.direction ∧
          key.column.name = column ∧
          key.style = StyleDetector.detect ⟨config.sampleSize⟩ (.dataset d) request.table column
            search := by
  cases hcolumn : request.sort.column? with
  | none =>
      refine ⟨{}, ?_, fun _ => rfl, fun column hc => ?_⟩
      · simp only [resolveOrder, hcolumn, OrderClause.ofSort]
      · cases hc
  | some column =>
      have hid := Identifier.ofName_of_valid (h.sort_valid hcolumn)
      refine ⟨⟨some ⟨⟨column, h.sort_valid hcolumn⟩, StyleDetector.detect ⟨config.sampleSize⟩
        (.dataset d) request.table column search⟩, request.sort.direction⟩, ?_, fun hc => ?_,
        fun column' hc => ?_⟩
      · simp only [resolveOrder, hcolumn, h.sort_known column hcolumn, OrderClause.ofSort,
          SortKey.ofColumn, hid]
        rfl
      · cases hc
      · cases hc
        exact ⟨_, rfl, rfl, rfl, rfl⟩

/-- A view of the table is prepared. -/
lemma exists_prepare (h : request.Checked d rel) (config : Config) :
    ∃ search order, Search.ofQuery (columnNames rel.columns) request.query = .ok search ∧
      resolveOrder (.dataset d) config request rel.columns search = .ok order ∧
      prepare (.dataset d) config request = .ok ⟨rel.columns, search, order⟩ := by
  obtain ⟨ids, -, hmade⟩ := Search.ofQuery_of_valid h.columns_valid h.query_valid
  obtain ⟨search, hsearch⟩ : ∃ search,
      Search.ofQuery (columnNames rel.columns) request.query = .ok search := ⟨_, hmade⟩
  obtain ⟨order, horder, -⟩ := h.resolveOrder_eq config search
  refine ⟨search, order, hsearch, horder, ?_⟩
  rw [prepare, h.columns_eq, Result.ok_bind, hsearch, Result.ok_bind, horder]
  rfl

section

variable (h : request.Checked d rel) {search : Search} {e : Error}
  (hread : (search.checkDepth 0 >>= fun _ =>
    Contents.source (.dataset d) ⟨request.table, h.table_valid⟩) = .error e)

include hread

/-- If a table cannot be searched, what would be made of its records fails. -/
lemma source_bind_eq_error {α : Type} (f : Relation → Result α) :
    (search.checkDepth 0 >>= fun _ =>
      Contents.source (.dataset d) ⟨request.table, h.table_valid⟩ >>= f) = .error e := by
  rw [← bind_assoc, hread]
  rfl

/-- The records of a table that cannot be searched are not counted. -/
lemma countRows_eq_error : countRows (.dataset d) request.table search = .error e := by
  rw [countRows, Identifier.ofName_of_valid h.table_valid, Result.ok_bind]
  exact h.source_bind_eq_error hread _

/-- **A table that cannot be searched** has no pages, and its rows are not loaded. -/
lemma load_eq_error (hsearch : Search.ofQuery (columnNames rel.columns) request.query = .ok search)
    (config : Config) :
    loadPage (.dataset d) config request = .error e ∧
      loadAll (.dataset d) config request = .error e := by
  obtain ⟨search', order, hsearch', -, hprepared⟩ := h.exists_prepare config
  obtain rfl := Except.ok.inj (hsearch.symm.trans hsearch')
  obtain ⟨ids, hids, -⟩ := Search.ofQuery_of_valid h.columns_valid h.query_valid
  refine ⟨?_, ?_⟩
  · rw [loadPage, hprepared, Result.ok_bind, h.countRows_eq_error hread]
    rfl
  · rw [loadAll, hprepared, Result.ok_bind, fetchRows, Identifier.ofName_of_valid h.table_valid,
      Result.ok_bind, Identifier.mapM_ofName_eq_ok_iff.mpr hids, Result.ok_bind,
      h.source_bind_eq_error hread]
    rfl

end

end TableRequest.Checked

/-- **A served request has a reading**, of the columns of the table and of the search for its
text. -/
theorem TableReading.exists_of_served {request : TableRequest} {d : Dataset} {rel : Relation}
    (h : request.Served d rel) (config : Config) :
    ∃ r : TableReading (.dataset d) config request, r.relation = rel ∧
      r.view.columns = rel.columns ∧
      Search.ofQuery (columnNames rel.columns) request.query = .ok r.view.search ∧
      resolveOrder (.dataset d) config request rel.columns r.view.search = .ok r.view.order := by
  obtain ⟨search, order, hsearch, horder, hprepared⟩ := h.exists_prepare config
  obtain ⟨ids, hids, -⟩ := Search.ofQuery_of_valid h.columns_valid h.query_valid
  have hdepth : search.checkDepth 0 = .ok () :=
    (Relation.checkDepth_eq_ok_iff hsearch).mpr h.searchable.fits
  have hfound : Contents.source (.dataset d) ⟨request.table, h.table_valid⟩ = .ok rel :=
    Contents.source_eq_ok_iff.mpr ⟨h.found, h.searchable.readable⟩
  exact ⟨⟨_, _, rel, ids, hprepared, rfl, hdepth, hfound, hids⟩, rfl, rfl, hsearch, horder⟩

/-- A request with a reading is served. -/
lemma TableReading.served {request : TableRequest} {d : Dataset} {config : Config}
    (r : TableReading (.dataset d) config request) : request.Served d r.relation := by
  have hvalid : Identifier.fault? request.table = none := r.named ▸ r.source.valid
  obtain ⟨hfound, hreadable⟩ := Contents.source_eq_ok_iff.mp r.found
  rw [r.named] at hfound
  obtain ⟨columns, hcolumns, h⟩ := Result.bind_eq_ok_iff.mp r.prepared
  obtain ⟨search, hsearch, h⟩ := Result.bind_eq_ok_iff.mp h
  obtain ⟨order, horder, h⟩ := Result.bind_eq_ok_iff.mp h
  have hview : columns = r.view.columns := congrArg Prepared.columns (Except.ok.inj h)
  obtain ⟨hcols, hnonempty⟩ := (Contents.columns_eq_ok_iff hvalid hfound).mp hcolumns
  refine ⟨⟨hvalid, hfound, fun name hname => ?_, hnonempty, ?_, fun column hcolumn => ?_⟩,
    hreadable, ?_⟩
  · rw [← hcols, hview, ← r.projected] at hname
    obtain ⟨id, -, rfl⟩ := List.mem_map.mp hname
    exact id.valid
  · obtain ⟨_, hquery, -⟩ := Result.bind_eq_ok_iff.mp hsearch
    exact hquery
  · rw [← hcols]
    by_contra hunknown
    rw [Bool.not_eq_true] at hunknown
    simp only [resolveOrder, hcolumn, hunknown] at horder
    cases horder
  · have hdepth := r.fits
    rw [← congrArg Prepared.search (Except.ok.inj h)] at hdepth
    exact (Relation.checkDepth_eq_ok_iff (hcols ▸ hsearch)).mp hdepth

/-- A table with one column, which has these cells. -/
def Table.ofCells (cells : List Cell) : Table :=
  Table.insertAll { name := "t", columns := [⟨"a", ""⟩] } (cells.map ([·]))

/-- The dataset of this one table. -/
def Dataset.ofCells (cells : List Cell) : Dataset := .ofTables [.ofCells cells]

end TableExplorer
