import TableExplorer.Proofs.Dashboard.MergeOrder

/-!
Tables that can be browsed, and the dashboard.  A page shows whatever is in the cells, reading bytes
that are no text as well as it can; a summary refuses to show them.  So a table of which there are
pages is on the dashboard exactly if the texts of its summary are well-formed, and is missing
without a word if they are not.

* `exists_search_of_loadPage`: **a page** tells how many records are found.
* `Explorer.browsed_mem_summarizeAll_iff`: **which browsed tables are on the dashboard**.
-/

namespace TableExplorer

/-- A page tells how many records are counted. -/
lemma total_of_loadPage {contents : Contents} {config : Config} {request : TableRequest}
    {page : TablePage} (hpage : loadPage contents config request = .ok page) :
    ∃ view, prepare contents config request = .ok view ∧
      countRows contents request.table view.search = .ok page.window.total := by
  obtain ⟨view, hview, hpage⟩ := Result.bind_eq_ok_iff.mp hpage
  obtain ⟨total, htotal, hpage⟩ := Result.bind_eq_ok_iff.mp hpage
  refine ⟨view, hview, htotal.trans (congrArg Except.ok ?_)⟩
  generalize hwindow : PageWindow.compute total (request.pageSize?.getD config.defaultPageSize)
    request.page = window at hpage
  have htotal : window.total = total := by rw [← hwindow, PageWindow.compute]
  dsimp only at hpage
  split_ifs at hpage
  · rw [pure_bind] at hpage
    rw [← Except.ok.inj hpage, htotal]
  · obtain ⟨rows, -, hpage⟩ := Result.bind_eq_ok_iff.mp hpage
    rw [← Except.ok.inj hpage, htotal]

/-- **A page** of a table that is there and can be written tells how many records are found, by a
search that a statement can have. -/
lemma exists_search_of_loadPage {d : Dataset} {config : Config} {request : TableRequest}
    {page : TablePage} {rel : Relation} (hvalid : Identifier.fault? request.table = none)
    (hfound : d.relation? request.table = some rel)
    (hpage : loadPage (.dataset d) config request = .ok page) :
    ∃ search, Search.ofQuery (columnNames rel.columns) request.query = .ok search ∧
      search.checkDepth 0 = .ok () ∧ page.window.total = (search.matching rel).length := by
  obtain ⟨view, hview, htotal⟩ := total_of_loadPage hpage
  obtain ⟨columns, hcolumns, hview⟩ := Result.bind_eq_ok_iff.mp hview
  obtain ⟨search, hsearch, hview⟩ := Result.bind_eq_ok_iff.mp hview
  obtain ⟨order, -, hview⟩ := Result.bind_eq_ok_iff.mp hview
  obtain rfl := Except.ok.inj hview
  obtain ⟨rfl, -⟩ := (Contents.columns_eq_ok_iff hvalid hfound).mp hcolumns
  obtain ⟨source, hsource, htotal⟩ := Result.bind_eq_ok_iff.mp htotal
  obtain ⟨_, hdepth, htotal⟩ := Result.bind_eq_ok_iff.mp htotal
  obtain ⟨other, hother, htotal⟩ := Result.bind_eq_ok_iff.mp htotal
  obtain ⟨hother, -⟩ := Contents.source_eq_ok_iff.mp hother
  rw [Identifier.ofName_eq_ok_iff.mp hsource, hfound, Option.some.injEq] at hother
  subst hother
  exact ⟨search, hsearch, hdepth, (Except.ok.inj htotal).symm⟩

/-- The number of records to keep is one of the sizes of a configuration. -/
lemma Config.topRecords_lt {config : Config} {bound : Nat}
    (h : ∀ size ∈ config.sizes, size.2 < bound) : config.topRecords < bound :=
  h ("top_records", config.topRecords) (by simp [sizes])

/-- The base tables are tables. -/
lemma Contents.exists_of_mem_baseTables {d : Dataset} {config : Config} {base : List String}
    (hbase : Contents.baseTables (.dataset d) config = .ok base) {table : String}
    (h : table ∈ base) : ∃ t ∈ d.tables, t.name = table := by
  obtain ⟨names, hnames, hbase⟩ := Result.bind_eq_ok_iff.mp hbase
  obtain rfl := Except.ok.inj hbase
  obtain rfl := Except.ok.inj hnames
  have hmem := (sortBy_perm _ _).mem_iff.mp (List.mem_filter.mp h).1
  exact List.mem_map.mp (List.mem_filter.mp hmem).1

namespace Explorer

/-- The rows of a dashboard are those of its summaries. -/
lemma totalRows_mergeSummaries (query : String) (summaries : List TableSummary)
    (limits : MergeLimits) :
    (mergeSummaries query summaries limits).totalRows = (summaries.map (·.totalRows)).sum :=
  ((sortBy_perm _ summaries).map _).sum_eq

/-- The rows of the summaries of some tables are those of one of them, if there is a summary of it,
and of the others. -/
lemma sum_totalRows_summaries (e : Explorer) (query : String) {table : String}
    {tables : List String} (h : table ∈ tables) :
    ((e.summaries query tables).map (·.totalRows)).sum =
      ((e.tableSummary table query).toOption.map (·.totalRows)).getD 0 +
        ((e.summaries query (tables.erase table)).map (·.totalRows)).sum := by
  have hperm : (e.summaries query tables).Perm (e.summaries query (table :: tables.erase table)) :=
    (List.perm_cons_erase h).filterMap _
  let summary? (table : String) : Option TableSummary := (e.tableSummary table query).toOption
  rw [(hperm.map _).sum_eq, summaries]
  cases hsummary : (e.tableSummary table query).toOption with
  | none =>
      rw [List.filterMap_cons_none (f := summary?) hsummary, Option.map_none, Option.getD_none,
        Nat.zero_add]
      rfl
  | some summary =>
      rw [List.filterMap_cons_some (f := summary?) hsummary, List.map_cons, List.sum_cons,
        Option.map_some, Option.getD_some]
      rfl

/-- **Which browsed tables are on the dashboard.**  Let the names of tables and columns be such that
they can be written, and the sizes of the configuration such that they fit into a statement.  If a
page of a base table is served, then there is a summary of the table, and the table is on the
dashboard and its rows are counted there, exactly if the texts that the summary shows are
well-formed; otherwise the dashboard is that of the other tables. -/
theorem browsed_mem_summarizeAll_iff {d : Dataset} {config : Config} {request : TableRequest}
    {page : TablePage} {base : List String}
    (htables : ∀ t ∈ d.tables, Identifier.fault? t.name = none ∧ t.relation.IsNamed)
    (hsizes : ∀ size ∈ config.sizes, size.2 < Word.signedBound)
    (hbase : Explorer.baseTables ⟨.dataset d, config⟩ = .ok base) (htable : request.table ∈ base)
    (hpage : Explorer.page ⟨.dataset d, config⟩ request = .ok page) :
    let e : Explorer := ⟨.dataset d, config⟩
    ∃ (rel : Relation) (search : Search) (all : Aggregate),
      d.relation? request.table = some rel ∧
      Search.ofQuery (columnNames rel.columns) request.query = .ok search ∧
      e.summarizeAll request.query = .ok all ∧
      let others := ((e.summaries request.query (base.erase request.table)).map (·.totalRows)).sum
      let legible := rel.IsLegible
        (TableRoles.resolve config request.table (columnNames rel.columns)) (search.matching rel)
      ((∃ aggregate, e.summarizeTable request.table request.query = .ok aggregate) ↔ legible) ∧
      (request.table ∈ all.tables ↔ legible) ∧
      (legible → all.totalRows = page.window.total + others) ∧
      (¬legible → all.totalRows = others) := by
  intro e
  obtain ⟨t, ht, hname⟩ := Contents.exists_of_mem_baseTables hbase htable
  have hvalid : Identifier.fault? request.table = none := hname ▸ (htables t ht).1
  obtain ⟨rel, hfound, hreadable, hnonempty, hnames⟩ :=
    Dataset.exists_relation? (fun t ht => (htables t ht).2) ht
  rw [hname] at hfound
  obtain ⟨search, hsearch, hdepth, htotal⟩ := exists_search_of_loadPage hvalid hfound hpage
  obtain ⟨_, hquery, -⟩ := Result.bind_eq_ok_iff.mp hsearch
  have hfits := (Relation.checkDepth_eq_ok_iff hsearch).mp hdepth
  have hserved : TableRequest.Served { table := request.table, query := request.query } d rel :=
    ⟨⟨hvalid, hfound, hnames, hnonempty, hquery, fun column hcolumn => (nomatch hcolumn)⟩,
      hreadable, hfits⟩
  have hsummary := TableSummary.exists_compute_iff hserved htables (Config.topRecords_lt hsizes)
    hsearch
  refine ⟨rel, search, mergeSummaries request.query (e.summaries request.query base)
    (.ofConfig config), hfound, hsearch, Result.bind_eq_ok hbase rfl, ?_, ?_, fun hlegible => ?_,
    fun hillegible => ?_⟩
  · exact exists_summarizeTable_iff.trans hsummary
  · exact (mem_tables_mergeSummaries_iff _).trans ((and_iff_right htable).trans hsummary)
  · obtain ⟨summary, h⟩ := hsummary.mpr hlegible
    obtain ⟨r⟩ := SummaryReading.exists_of_compute h
    obtain ⟨-, hrecords, -⟩ := r.selection_eq hfound hsearch
    have hmade : (e.tableSummary request.table request.query).toOption = some summary :=
      congrArg Except.toOption h
    rw [totalRows_mergeSummaries, sum_totalRows_summaries e _ htable, hmade, Option.map_some,
      Option.getD_some, r.totalRows, hrecords, htotal, Search.matching_eq_filter]
  · have hrefused : (e.tableSummary request.table request.query).toOption = none := by
      cases hmade : e.tableSummary request.table request.query with
      | error err => rfl
      | ok summary => exact absurd (hsummary.mp ⟨summary, hmade⟩) hillegible
    rw [totalRows_mergeSummaries, sum_totalRows_summaries e _ htable, hrefused, Option.map_none,
      Option.getD_none, Nat.zero_add]

/-- A table of types. -/
def typesOf (name : String) (types : List Cell) : Table :=
  Table.insertAll { name := name, columns := [⟨"Tipo", "TEXT"⟩] } (types.map ([·]))

/-- A table of a type that is a text, and one of a type that is a byte. -/
def textAndByte : Dataset :=
  .ofTables [typesOf "a" [.ofString "A"], typesOf "b" [.text ⟨#[0xff]⟩]]

/-- The table of a text is on the dashboard, and its row is counted. -/
theorem text_mem_summarizeAll :
    let e : Explorer := ⟨.dataset textAndByte, {}⟩
    ∃ page all, e.page { table := "a" } = .ok page ∧ e.summarizeAll "" = .ok all ∧
      "a" ∈ all.tables ∧ all.totalRows = page.window.total := by
  intro e
  let request : TableRequest := { table := "a" }
  have hpage : (e.page { table := "a" }).map (·.window.total) = .ok 1 := by decide +kernel
  obtain ⟨page, hpage, -⟩ := Result.map_eq_ok_iff.mp hpage
  have hbase : e.baseTables = .ok ["a", "b"] := by rfl
  have hothers : ((e.summaries "" (["a", "b"].erase "a")).map (·.totalRows)).sum = 0 := by
    decide +kernel
  obtain ⟨rel, search, all, hrel, hsearch, hall, -, hmem, hrows, -⟩ :=
    browsed_mem_summarizeAll_iff (by decide +kernel) (by decide +kernel) hbase
      (by decide : request.table ∈ _) hpage
  have hfound : textAndByte.relation? "a" = some (typesOf "a" [.ofString "A"]).relation := by rfl
  obtain rfl := Option.some.inj (hfound.symm.trans hrel)
  obtain rfl : Search.all = search := Except.ok.inj hsearch
  have hroles : TableRoles.resolve {} "a" ["Tipo"] = { recordType? := some "Tipo" } := by
    decide +kernel
  have hlegible : (typesOf "a" [.ofString "A"]).relation.IsLegible
      (TableRoles.resolve {} "a" ["Tipo"])
      (Search.all.matching (typesOf "a" [.ofString "A"]).relation) := by
    rw [hroles]
    refine ⟨fun column hcolumn => ?_, fun column hcolumn => (nomatch hcolumn),
      fun column hcolumn => (nomatch hcolumn)⟩
    obtain rfl : "Tipo" = column := Option.some.inj hcolumn
    decide +kernel
  refine ⟨page, all, hpage, hall, hmem.mpr hlegible, (hrows hlegible).trans ?_⟩
  exact congrArg (page.window.total + ·) hothers

/-- The table of a byte has a page with its row, but no summary, and the dashboard is that of the
other table. -/
theorem byte_notMem_summarizeAll :
    let e : Explorer := ⟨.dataset textAndByte, {}⟩
    (∀ t ∈ textAndByte.tables, Identifier.fault? t.name = none ∧ t.relation.IsNamed) ∧
      (∀ size ∈ ({} : Config).sizes, size.2 < Word.signedBound) ∧
      e.baseTables = .ok ["a", "b"] ∧
      (e.page { table := "b" }).map (·.rows) = .ok [⟨[("Tipo", .text "\uFFFD")]⟩] ∧
      (e.summarizeTable "b" "").isOk = false ∧
      (e.summarizeAll "").map (fun all => (all.tables, all.totalRows)) = .ok (["a"], 1) := by
  refine ⟨?_, ?_, ?_, ?_, ?_, ?_⟩
  all_goals decide +kernel

end Explorer

end TableExplorer
