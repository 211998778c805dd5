import TableExplorer.Proofs.View.Reading

/-!
Tables that are too wide.  A search for a text tests all columns in one condition, which has a level
for each of them, and statements have a limit on levels.  So a table with too many columns is shown
as it is, but cannot be searched.

* `Search.checkDepth_of_wide`: **the search of too many columns** is refused by any statement.
* `TableRequest.Checked.load_of_wide`: **a table that is too wide** has no pages for a text.
* `wideTable`: a table with one more column than can be searched (`load_wideTable`); its record is
  among those of a search (`exists_finds_wideTable`) that no statement can have.
-/

namespace TableExplorer

/-- **The search of too many columns** for a text that is not blank is refused by any statement. -/
lemma Search.checkDepth_of_wide {columns : List String} {query : String} {search : Search}
    (hsearch : ofQuery columns query = .ok search) (htext : (Text.trim query).isEmpty = false)
    (hwide : maxColumns < columns.length) (around : Nat) :
    search.checkDepth around = .error (.query tooDeepDetail) := by
  have hdeep : ¬search.depth ≤ maxDepth := by
    rw [depth_le_iff hsearch, htext]
    exact fun h => h.elim Bool.false_ne_true hwide.not_ge
  exact checkDepth_eq_error ((not_le.mp hdeep).trans_le (Nat.le_add_right _ _))

/-- **A table that is too wide** has no pages for a text that is not blank, and no rows. -/
lemma TableRequest.Checked.load_of_wide {request : TableRequest} {d : Dataset} {rel : Relation}
    (h : request.Checked d rel) (htext : (Text.trim request.query).isEmpty = false)
    (hwide : Search.maxColumns < rel.columns.length) (config : Config) :
    loadPage (.dataset d) config request = .error (.query Search.tooDeepDetail) ∧
      loadAll (.dataset d) config request = .error (.query Search.tooDeepDetail) := by
  obtain ⟨search, -, hsearch, -⟩ := h.exists_prepare config
  refine h.load_eq_error ?_ hsearch config
  rw [Search.checkDepth_of_wide hsearch htext (by rwa [columnNames, List.length_map])]
  rfl

/-! ### A wide table -/

/-- The columns of a table with one more than can be searched. -/
def wideColumns : List Column :=
  ⟨"Adxudicatario", "TEXT"⟩ :: (List.range Search.maxColumns).map fun i =>
    ⟨"c" ++ toString i, "TEXT"⟩

/-- A table of these columns, with a text in the first one. -/
def wideTable : Table :=
  Table.insertAll { name := "t", columns := wideColumns }
    [.ofString "x" :: List.replicate Search.maxColumns .null]

/-- A dataset of this table. -/
def wideDataset : Dataset := .ofTables [wideTable]

/-- There are too many columns. -/
lemma maxColumns_lt_wideColumns : Search.maxColumns < wideTable.relation.columns.length := by
  show Search.maxColumns < wideColumns.length
  rw [wideColumns, List.length_cons, List.length_map, List.length_range]
  exact Nat.lt_succ_self _

/-- A letter before the digits of a number. -/
lemma toList_numbered (i : Nat) : ("c" ++ toString i).toList = 'c' :: Nat.toDigits 10 i := by
  rw [String.toList_append, Nat.toString_eq_repr, Nat.toList_repr]
  rfl

/-- The names of the columns can be written. -/
lemma valid_wideColumns : ∀ name ∈ columnNames wideTable.relation.columns,
    Identifier.fault? name = none := by
  show ∀ name ∈ columnNames wideColumns, Identifier.fault? name = none
  rw [columnNames, wideColumns, List.map_cons, List.map_map, List.forall_mem_cons,
    List.forall_mem_map]
  refine ⟨by decide +kernel, fun i hi => ?_⟩
  have hlength : (Nat.toDigits 10 i).length ≤ 3 :=
    Nat.toDigits_length 10 i 3 (by decide) ((List.mem_range.mp hi).trans_le (by decide))
  have hnul : '\x00' ∉ 'c' :: Nat.toDigits 10 i := by
    intro hmem
    have hdigit := Nat.isDigit_of_mem_toDigits (by decide) (by decide)
      (List.mem_of_ne_of_mem (by decide) hmem)
    exact absurd hdigit (by decide)
  show Identifier.fault? ("c" ++ toString i) = none
  refine Identifier.fault?_eq_none_of_few (fun hempty => ?_) ?_ (toList_numbered i ▸ hnul)
  · exact List.cons_ne_nil _ _ ((toList_numbered i).symm.trans (congrArg String.toList hempty))
  · rw [toList_numbered, List.length_cons, Identifier.maxBytes]
    omega

/-- The table is found. -/
lemma relation?_wideTable : wideDataset.relation? "t" = some wideTable.relation :=
  Dataset.relation?_of_only (t := wideTable) (by decide +kernel) (by decide +kernel)

/-- Requests on the table pass all checks, whatever text is asked for, unless it is refused. -/
lemma checked_wideTable {query : String} (hquery : checkSearchText query = .ok ()) {page : Int} :
    TableRequest.Checked { table := "t", query := query, page := page } wideDataset
      wideTable.relation where
  table_valid := (by decide +kernel : Identifier.fault? "t" = none)
  found := relation?_wideTable
  columns_valid := valid_wideColumns
  columns_ne_nil := List.cons_ne_nil _ _
  query_valid := hquery
  sort_known := fun column hcolumn => nomatch hcolumn

/-- No page of the table is loaded for its text, and no rows. -/
lemma load_wideTable (page : Int) :
    loadPage (.dataset wideDataset) {} { table := "t", query := "x", page := page } =
        .error (.query Search.tooDeepDetail) ∧
      loadAll (.dataset wideDataset) {} { table := "t", query := "x", page := page } =
        .error (.query Search.tooDeepDetail) := by
  have hquery : checkSearchText "x" = .ok () := by decide +kernel
  have htext : (Text.trim "x").isEmpty = false := by decide +kernel
  exact (checked_wideTable hquery).load_of_wide htext maxColumns_lt_wideColumns {}

/-- The record of the table, with the text in its first column. -/
lemma exists_record_wideTable : ∃ record, wideTable.relation.records = [record] ∧
    wideTable.relation.cell "Adxudicatario" record = .ofString "x" :=
  ⟨_, rfl, rfl⟩

/-- The record is among those of a search for the text. -/
lemma exists_finds_wideTable : ∃ search,
    Search.ofQuery (columnNames wideTable.relation.columns) "x" = .ok search ∧
      wideTable.relation.records.filter (search.finds wideTable.relation) =
        wideTable.relation.records := by
  obtain ⟨record, hrecords, hcell⟩ := exists_record_wideTable
  have hquery : checkSearchText "x" = .ok () := by decide +kernel
  obtain ⟨ids, search, hsearch, hfinds⟩ := Search.finds_iff_accepts valid_wideColumns hquery
  refine ⟨search, hsearch, List.filter_eq_self.mpr fun other hother => ?_⟩
  rw [hrecords, List.mem_singleton] at hother
  subst hother
  refine (hfinds _ _).mpr (.inr (.inr ⟨"Adxudicatario", List.mem_cons_self, ?_⟩))
  rw [hcell]
  show Pattern.accepts (some '\\') (Search.patternOf (Text.trim "x"))
    (Cell.castFolded (.ofString "x")) = true
  decide +kernel

end TableExplorer
