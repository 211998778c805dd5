import TableExplorer.Histogram
import TableExplorer.Proofs.Dataset.Relations
import TableExplorer.Proofs.View.SortedView

/-!
Records that a search does not find leave no trace in the views of a table and in its histograms.
All of these are made of the cells of the records that are found; not even the numbers of records
are seen, and these are what other records change.

* `Record.bare`: a record without its number; `Relation.cell_bare`: **columns do not show it**.
* `Contents.SameFound`: two datasets in which a statement on one table finds the same.
* `Contents.SameFound.detect_eq`, `fetchRows_eq`, `buckets_eq`: **the same style, the same rows and
  the same buckets** are found in them.
* `Dataset.SameFound.loadPage_eq`, `loadAll_eq`, `compute_eq`: **the same pages, views and
  histograms** are served from them, or refused for the same reasons.
-/

namespace TableExplorer

/-! ### Records without numbers -/

/-- A record without its number. -/
def Record.bare (record : Record) : Record := ⟨0, record.cells⟩

namespace Relation

variable {rel rel' : Relation} {search : Search}

/-- The name of a column is read as the column. -/
lemma exists_reference_eq {name : String} (h : hasColumn rel.columns name = true) :
    ∃ index, rel.reference name = .column index := by
  obtain ⟨index, hindex⟩ : ∃ index, rel.columnIndex? name = some index := by
    refine Option.isSome_iff_exists.mp ?_
    rw [columnIndex?, List.findIdx?_isSome]
    exact h
  refine ⟨index, ?_⟩
  rw [reference, hindex]

/-- **Columns do not show the numbers of records.** -/
lemma cell_bare {name : String} (h : hasColumn rel.columns name = true) (record : Record) :
    rel.cell name record.bare = rel.cell name record := by
  obtain ⟨index, hindex⟩ := exists_reference_eq h
  rw [cell, cell, hindex]
  rfl

/-- A column of a table is found under its name. -/
lemma hasColumn_of_mem {columns : List Column} {name : String} (h : name ∈ columnNames columns) :
    hasColumn columns name = true := by
  obtain ⟨c, hc, rfl⟩ := List.mem_map.mp h
  exact List.any_eq_true.mpr ⟨c, hc, beq_self_eq_true _⟩

/-- Names are read alike in relations of one shape. -/
lemma SameShape.reference_eq (h : rel.SameShape rel') (name : String) :
    rel.reference name = rel'.reference name := by
  rw [reference, reference, columnIndex?, columnIndex?, h.columns, h.numbered]

/-- Cells are read alike in relations of one shape. -/
lemma SameShape.cell_eq (h : rel.SameShape rel') : rel.cell = rel'.cell := by
  funext name record
  rw [cell, cell, h.reference_eq]

/-- Names are compared alike in relations of one shape. -/
lemma SameShape.collation_eq (h : rel.SameShape rel') : rel.collation = rel'.collation := by
  funext name
  rw [collation, collation, h.reference_eq]
  cases rel'.reference name with
  | column index => rw [collationOf, collationOf, h.collations]
  | _ => rfl

/-- What is found is the same but for the numbers of the records. -/
lemma SameFound.bare_eq (h : rel.SameFound search rel') :
    (search.matching rel).map Record.bare = (search.matching rel').map Record.bare := by
  have hcells := congrArg (List.map fun cells => (⟨0, cells⟩ : Record)) h.found
  rwa [List.map_map, List.map_map] at hcells

/-- As many records are found. -/
lemma SameFound.length_eq (h : rel.SameFound search rel') :
    (search.matching rel).length = (search.matching rel').length := by
  have hlength := congrArg List.length h.found
  rwa [List.length_map, List.length_map] at hlength

/-- What is made of the records that are found is the same, if their numbers do not count. -/
lemma SameFound.map_eq {β : Type} {f : Record → β} (h : rel.SameFound search rel')
    (hf : ∀ record : Record, f record.bare = f record) :
    (search.matching rel).map f = (search.matching rel').map f := by
  have hbare : ∀ records : List Record, records.map f = (records.map Record.bare).map f := by
    intro records
    rw [List.map_map]
    exact List.map_congr_left fun record _ => (hf record).symm
  rw [hbare, h.bare_eq, ← hbare]

/-- The cells of a column are the same in the records that are found. -/
lemma SameFound.cells_eq (h : rel.SameFound search rel') {name : String}
    (hname : hasColumn rel.columns name = true) :
    (search.matching rel).map (rel.cell name) = (search.matching rel').map (rel'.cell name) := by
  rw [h.map_eq (cell_bare hname), h.cell_eq]

end Relation

/-! ### The order of records without numbers -/

namespace OrderClause

variable {order : OrderClause} {rel : Relation}

/-- Records are put in order whatever their numbers. -/
lemma arrange_bare
    (hkey : ∀ key, order.key? = some key → hasColumn rel.columns key.column.name = true)
    (records : List Record) :
    order.arrange rel (records.map Record.bare) =
      (order.arrange rel records).map Record.bare := by
  cases hsort : order.key? with
  | none => rw [arrange_of_no_key hsort, arrange_of_no_key hsort]
  | some key =>
      have hcell : ∀ record : Record, key.cell rel record.bare = key.cell rel record := by
        intro record
        rw [SortKey.cell, SortKey.cell, Relation.cell_bare (hkey key hsort)]
      rw [arrange_of_key hsort, arrange_of_key hsort, sortBy_map]
      refine congrArg (List.map Record.bare) (sortBy_congr fun r _ s _ => ?_)
      rw [SortKey.compareRecords, SortKey.compareRecords, hcell, hcell]

/-- Records are put in the same order in relations of one shape. -/
lemma arrange_eq {rel' : Relation} (h : rel.SameShape rel') : order.arrange rel =
    order.arrange rel' := by
  funext records
  simp only [arrange, SortKey.cell, h.cell_eq, h.collation_eq]

section

variable {contents : Contents} {config : Config} {request : TableRequest} {columns : List Column}
  {search : Search} {column : String}

/-- The order by a column that the table has not is refused. -/
lemma resolveOrder_of_not_hasColumn (hsort : request.sort.column? = some column)
    (hcolumn : hasColumn columns column = false) :
    resolveOrder contents config request columns search =
      .error (.columnNotFound request.table column) := by
  simp only [resolveOrder, hsort, hcolumn, Bool.not_false, if_true]
  rfl

/-- The order by a column of the table is made in the style that is found for it. -/
lemma resolveOrder_of_hasColumn (hsort : request.sort.column? = some column)
    (hcolumn : hasColumn columns column = true) :
    resolveOrder contents config request columns search =
      (SortKey.ofColumn column (StyleDetector.detect ⟨config.sampleSize⟩ contents request.table
        column search)).map fun key => ⟨some key, request.sort.direction⟩ := by
  simp only [resolveOrder, hsort, hcolumn, Bool.not_true, Bool.false_eq_true, if_false,
    OrderClause.ofSort]
  rfl

/-- The order asked for is by a column of the table. -/
lemma hasColumn_of_resolveOrder
    (h : resolveOrder contents config request columns search = .ok order) {key : SortKey}
    (hkey : order.key? = some key) : hasColumn columns key.column.name = true := by
  cases hsort : request.sort.column? with
  | none =>
      simp only [resolveOrder, OrderClause.ofSort, hsort] at h
      obtain rfl : {} = order := Except.ok.inj h
      cases hkey
  | some column =>
      cases hcolumn : hasColumn columns column with
      | false =>
          rw [resolveOrder_of_not_hasColumn hsort hcolumn] at h
          cases h
      | true =>
          rw [resolveOrder_of_hasColumn hsort hcolumn, Result.map_eq_ok_iff] at h
          obtain ⟨key', hmade, rfl⟩ := h
          obtain rfl := Option.some.inj hkey
          obtain ⟨id, hid, hmade⟩ := Result.bind_eq_ok_iff.mp hmade
          obtain rfl := Except.ok.inj hmade
          rw [Identifier.ofName_eq_ok_iff.mp hid]
          exact hcolumn

end

end OrderClause

/-! ### Statements that find the same -/

/-- A statement on one table that searches it finds the same in two datasets, or fails in both for
the same reason. -/
def Contents.SameFound (table : String) (columns : List Column) (search : Search)
    (contents contents' : Contents) : Prop :=
  ∀ source : Identifier, source.name = table →
    (∃ e, contents.source source = .error e ∧ contents'.source source = .error e) ∨
      ∃ rel rel', contents.source source = .ok rel ∧ contents'.source source = .ok rel' ∧
        rel.columns = columns ∧ rel.SameFound search rel'

namespace Contents.SameFound

variable {table : String} {columns : List Column} {search : Search} {contents contents' : Contents}
  (h : Contents.SameFound table columns search contents contents')

include h

/-- What a statement makes of the relation that it reads is the same, if it is the same for
relations in which the search finds the same. -/
lemma bind_source_eq {α : Type} {f g : Relation → Result α} {source : Identifier}
    (hsource : Identifier.ofName table = .ok source)
    (hfg : ∀ rel rel' : Relation, rel.columns = columns → rel.SameFound search rel' →
      f rel = g rel') :
    contents.source source >>= f = contents'.source source >>= g := by
  rcases h source (Identifier.ofName_eq_ok_iff.mp hsource) with
    ⟨e, hfails, hfails'⟩ | ⟨rel, rel', hrel, hrel', hcolumns, hfound⟩
  · rw [hfails, hfails']
    rfl
  · rw [hrel, hrel', Result.ok_bind, Result.ok_bind, hfg rel rel' hcolumns hfound]

/-- The same values are sampled. -/
lemma samples_eq (detector : StyleDetector) {column : String}
    (hcolumn : hasColumn columns column = true) :
    detector.samples contents table column search =
      detector.samples contents' table column search := by
  rw [StyleDetector.samples, StyleDetector.samples]
  refine Result.bind_congr fun id hid => Result.bind_congr fun source hsource =>
    Result.bind_congr fun _ _ => h.bind_source_eq hsource fun rel rel' hcolumns hfound => ?_
  rw [← Identifier.ofName_eq_ok_iff.mp hid, ← hcolumns] at hcolumn
  simp only [StyleDetector.samplesIn, hfound.cells_eq hcolumn]

/-- **The same style** is found. -/
lemma detect_eq (detector : StyleDetector) {column : String}
    (hcolumn : hasColumn columns column = true) :
    detector.detect contents table column search =
      detector.detect contents' table column search := by
  rw [StyleDetector.detect, StyleDetector.detect, h.samples_eq detector hcolumn]

/-- As many records are counted. -/
lemma countRows_eq : countRows contents table search = countRows contents' table search := by
  refine Result.bind_congr fun source hsource => Result.bind_congr fun _ _ =>
    h.bind_source_eq hsource fun rel rel' _ hfound => ?_
  rw [hfound.length_eq]

/-- The same order is asked for. -/
lemma resolveOrder_eq (config : Config) {request : TableRequest} (htable : request.table = table) :
    resolveOrder contents config request columns search =
      resolveOrder contents' config request columns search := by
  subst htable
  cases hsort : request.sort.column? with
  | none => simp only [resolveOrder, OrderClause.ofSort, hsort]
  | some column =>
      cases hcolumn : hasColumn columns column with
      | false =>
          rw [OrderClause.resolveOrder_of_not_hasColumn hsort hcolumn,
            OrderClause.resolveOrder_of_not_hasColumn hsort hcolumn]
      | true =>
          rw [OrderClause.resolveOrder_of_hasColumn hsort hcolumn,
            OrderClause.resolveOrder_of_hasColumn hsort hcolumn, h.detect_eq _ hcolumn]

/-- **The same rows** are fetched. -/
lemma fetchRows_eq {view : Prepared} (hcolumns : view.columns = columns)
    (hsearch : view.search = search)
    (hkey : ∀ key, view.order.key? = some key → hasColumn columns key.column.name = true)
    (slice : List Record → List Record)
    (hslice : ∀ records : List Record,
      (slice records).map Record.bare = slice (records.map Record.bare)) :
    fetchRows contents table view slice = fetchRows contents' table view slice := by
  rw [fetchRows, fetchRows]
  subst hsearch
  refine Result.bind_congr fun source hsource => Result.bind_congr fun ids hids =>
    Result.bind_congr fun _ _ => h.bind_source_eq hsource fun rel rel' hrel hfound => ?_
  subst hrel
  rw [Identifier.mapM_ofName_eq_ok_iff] at hids
  have hrow : ∀ record : Record, rowOf rel ids record.bare = rowOf rel ids record := by
    intro record
    rw [rowOf, rowOf, Row.mk.injEq]
    refine List.map_congr_left fun id hid => ?_
    have hmem : id.name ∈ columnNames rel.columns := by
      rw [← hcolumns, ← hids]
      exact List.mem_map_of_mem hid
    rw [Relation.cell_bare (Relation.hasColumn_of_mem hmem)]
  have hrows : ∀ records : List Record,
      (slice (view.order.arrange rel records)).map (rowOf rel ids) =
        (slice (view.order.arrange rel (records.map Record.bare))).map (rowOf rel ids) := by
    intro records
    rw [OrderClause.arrange_bare hkey, ← hslice, List.map_map]
    exact List.map_congr_left fun record _ => (hrow record).symm
  have hrowOf : rowOf rel ids = rowOf rel' ids := by
    funext record
    simp only [rowOf, hfound.cell_eq]
  dsimp only
  rw [hrows, hfound.bare_eq, ← hrows, OrderClause.arrange_eq hfound.toSameShape, hrowOf]

/-- **The same buckets** are counted. -/
lemma buckets_eq (config : Config) {request : HistogramRequest} (htable : request.table = table)
    (hcolumn : hasColumn columns request.column = true) :
    Histogram.buckets contents config request search =
      Histogram.buckets contents' config request search := by
  subst htable
  rw [Histogram.buckets, Histogram.buckets, h.detect_eq _ hcolumn]
  refine Result.bind_congr fun source hsource => Result.bind_congr fun id hid =>
    Result.bind_congr fun _ _ => h.bind_source_eq hsource fun rel rel' hcolumns hfound => ?_
  rw [← Identifier.ofName_eq_ok_iff.mp hid, ← hcolumns] at hcolumn
  simp only [hfound.cells_eq hcolumn, hfound.collation_eq]

end Contents.SameFound

/-! ### Views and histograms -/

namespace Dataset.SameFound

variable {table query : String} {d d' : Dataset} (h : d.SameFound table query d')

include h

/-- Statements that search the table for the query find the same. -/
lemma contents {columns : List Column} {search : Search}
    (hcolumns : Contents.columns (.dataset d) table = .ok columns)
    (hsearch : Search.ofQuery (columnNames columns) query = .ok search) :
    Contents.SameFound table columns search (.dataset d) (.dataset d') := by
  rintro source rfl
  cases hrel : d.relation? source.name with
  | none =>
      rw [Contents.columns_of_none (Identifier.nul_notMem_of_valid source.valid) hrel] at hcolumns
      cases hcolumns
  | some rel =>
      obtain ⟨rfl, -⟩ := (Contents.columns_eq_ok_iff source.valid hrel).mp hcolumns
      obtain ⟨rel', hrel', hfound⟩ := h.exists_relation? hrel hsearch
      have hfailure := hfound.failure
      simp only [Contents.source, hrel, hrel', ← hfailure]
      cases rel.failure? with
      | none => exact .inr ⟨rel, rel', rfl, rfl, rfl, hfound⟩
      | some detail => exact .inl ⟨_, rfl, rfl⟩

variable {request : TableRequest} (config : Config) (htable : request.table = table)
  (hquery : request.query = query)

include htable hquery

/-- The views that are prepared are the same. -/
lemma prepare_eq :
    prepare (.dataset d) config request = prepare (.dataset d') config request := by
  rw [prepare, prepare, htable, hquery, h.columns_eq]
  refine Result.bind_congr fun columns hcolumns => Result.bind_congr fun search hsearch => ?_
  rw [← h.columns_eq] at hcolumns
  rw [(h.contents hcolumns hsearch).resolveOrder_eq config htable]

/-- A view that is prepared finds the same and is in the order of a column. -/
lemma of_prepare {view : Prepared} (hview : prepare (.dataset d) config request = .ok view) :
    Contents.SameFound table view.columns view.search (.dataset d) (.dataset d') ∧
      ∀ key, view.order.key? = some key → hasColumn view.columns key.column.name = true := by
  obtain ⟨columns, hcolumns, hview⟩ := Result.bind_eq_ok_iff.mp hview
  obtain ⟨search, hsearch, hview⟩ := Result.bind_eq_ok_iff.mp hview
  obtain ⟨order, horder, hview⟩ := Result.bind_eq_ok_iff.mp hview
  obtain rfl := Except.ok.inj hview
  rw [htable] at hcolumns
  rw [hquery] at hsearch
  exact ⟨h.contents hcolumns hsearch, fun key => OrderClause.hasColumn_of_resolveOrder horder⟩

/-- **Pages** are the same. -/
lemma loadPage_eq :
    loadPage (.dataset d) config request = loadPage (.dataset d') config request := by
  rw [loadPage, loadPage, ← h.prepare_eq config htable hquery]
  refine Result.bind_congr fun view hview => ?_
  obtain ⟨hfound, hkey⟩ := h.of_prepare config htable hquery hview
  rw [htable, hfound.countRows_eq]
  refine Result.bind_congr fun total _ => ?_
  have hfetch (window : PageWindow) : fetchRows (.dataset d) table view window.slice =
      fetchRows (.dataset d') table view window.slice :=
    hfound.fetchRows_eq rfl rfl hkey _ fun records => by
      rw [PageWindow.slice, PageWindow.slice, List.map_take, List.map_drop]
  simp only [hfetch]

/-- **Views** are the same. -/
lemma loadAll_eq : loadAll (.dataset d) config request = loadAll (.dataset d') config request := by
  rw [loadAll, loadAll, ← h.prepare_eq config htable hquery]
  refine Result.bind_congr fun view hview => ?_
  obtain ⟨hfound, hkey⟩ := h.of_prepare config htable hquery hview
  rw [htable, hfound.fetchRows_eq rfl rfl hkey id fun _ => rfl]

omit htable hquery in
/-- **Histograms** are the same. -/
lemma compute_eq {request : HistogramRequest} (htable : request.table = table)
    (hquery : request.query = query) :
    Histogram.compute (.dataset d) config request =
      Histogram.compute (.dataset d') config request := by
  rw [Histogram.compute, Histogram.compute, htable, hquery, h.columns_eq]
  refine Result.bind_congr fun columns hcolumns => ?_
  rw [← h.columns_eq] at hcolumns
  by_cases hcolumn : hasColumn columns request.column = true
  · simp only [hcolumn, Bool.not_true, Bool.false_eq_true, if_false]
    refine Result.bind_congr fun search hsearch => ?_
    rw [(h.contents hcolumns hsearch).buckets_eq config htable hcolumn]
  · rw [Bool.not_eq_true] at hcolumn
    simp only [hcolumn, Bool.not_false, if_true]

end Dataset.SameFound

end TableExplorer
