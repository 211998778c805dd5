import Mathlib
import TableExplorer.Proofs.Dashboard.MergeOrder
import TableExplorer.Proofs.LargestItems

/-!
The records of the highest amounts of a dashboard.  They are selected twice: each table keeps as
many of its records as the dashboard does, and the dashboard selects from what the tables keep.
Nothing is lost in this way: the amounts of the dashboard are the highest of all amounts that are
found.

* `AmountRow`: a record with its amount; `Dataset.amountRows`: those that a search finds in a table.
* `SummaryReading.topRecords_eq`: **what a table keeps**.
* `TopRecord.Precedes`: the order of the records in a dashboard.
* `take_quanta_sortReports`: **what a dashboard selects** from what its tables keep.
* `Explorer.summarizeAll_topRecords`: **the records of a dashboard are those of the highest
  amounts** in all tables that contribute.
-/

namespace TableExplorer

/-! ### Rows -/

/-- A record of a table with its amount. -/
structure AmountRow where
  table : String
  relation : Relation
  record : Record
  amount : Binary64

namespace AmountRow

/-- The columns that play a part in the table of the row. -/
def roles (config : Config) (row : AmountRow) : TableRoles :=
  .resolve config row.table (columnNames row.relation.columns)

/-- The text of a column in the row, if there is such a column and it is not blank. -/
def shown? (row : AmountRow) (column? : Option String) : Option String := do
  (row.relation.cell (← column?) row.record).read.nonBlankText?

/-- The label of the row: its description, and failing that its identifier, its awardee or the name
of its table. -/
def label (config : Config) (row : AmountRow) : String :=
  let roles := row.roles config
  let text? := (row.shown? roles.description?).or
    ((row.shown? roles.recordId?).or (row.shown? roles.awardee?))
  truncateLabel (text?.getD row.table) config.labelMaxChars config.ellipsis

/-- The row as a dashboard reports it. -/
def report (config : Config) (row : AmountRow) : TopRecord :=
  let roles := row.roles config
  ⟨row.table, row.label config, row.amount, row.shown? roles.recordId?,
    row.shown? roles.description?⟩

/-- The amount of the row, in quanta. -/
def quanta (row : AmountRow) : Int := Cell.realQuanta row.amount

/-- The order of rows from the highest amount down. -/
def compareAmounts (a b : AmountRow) : Ordering := compare b.quanta a.quanta

instance : Std.TransCmp compareAmounts :=
  inferInstanceAs (Std.TransCmp fun a b => compareOn quanta b a)

end AmountRow

/-- The amount of a record, if the amount column of its table is in a numeric style. -/
def TableRoles.amountIn? (roles : TableRoles) (style : AmountStyle) (rel : Relation)
    (record : Record) : Option Binary64 := do
  if style.isNumeric then (rel.cell (← roles.amount?) record).amount? style else none

/-- The records with an amount that a search for the query finds in a table. -/
def Dataset.amountRows (d : Dataset) (config : Config) (query table : String) : List AmountRow :=
  match d.relation? table with
  | none => []
  | some rel =>
    let columns := columnNames rel.columns
    match Search.ofQuery columns query with
    | .error _ => []
    | .ok search =>
      let roles := TableRoles.resolve config table columns
      let style := amountStyleOf (.dataset d) config table roles search
      (rel.records.filter (search.finds rel)).filterMap fun record =>
        (roles.amountIn? style rel record).map fun amount => ⟨table, rel, record, amount⟩

/-! ### What a table keeps -/

namespace Selection

variable {s : Selection} {config : Config} {roles : TableRoles}

/-- The records of a selection that have an amount. -/
def amountRows (s : Selection) : List AmountRow :=
  s.records.filterMap fun record =>
    (s.amount? record).map fun amount => ⟨s.table.name, s.relation, record, amount⟩

/-- The amount of a record by the key of the amounts is that in the amount column. -/
lemma amount?_eq {style : AmountStyle} (h : amountKeyOf roles style = .ok s.amountKey?)
    (record : Record) : s.amount? record = roles.amountIn? style s.relation record := by
  rw [amount?, TableRoles.amountIn?]
  rcases amountKeyOf_cases h with ⟨key, hkey, hcolumn, rfl, hnumeric⟩ |
    ⟨hkey, hcolumn | hnumeric⟩
  · rw [hkey, hcolumn, if_pos hnumeric]
    rfl
  · rw [hkey, hcolumn]
    split <;> rfl
  · rw [hkey, hnumeric]
    rfl

/-- A selection without amounts has no rows. -/
lemma amountRows_eq_nil (h : ¬s.amountKey?.isSome) : s.amountRows = [] := by
  rw [amountRows, List.filterMap_eq_nil_iff]
  intro record _
  rw [amount?, Option.not_isSome_iff_eq_none.mp h]
  rfl

/-- The records of the highest amounts of a selection are its first rows, as they are reported. -/
lemma eq_of_topRecords {records : List TopRecord}
    (hroles : roles = .resolve config s.table.name (columnNames s.relation.columns))
    (h : s.topRecords config roles = .ok records) :
    records = ((sortBy AmountRow.compareAmounts s.amountRows).take config.topRecords).map
      (AmountRow.report config) := by
  let row (pair : Binary64 × Record) : AmountRow := ⟨s.table.name, s.relation, pair.2, pair.1⟩
  let amounts := s.records.filterMap fun record => (s.amount? record).map fun x => (x, record)
  have hrows : s.amountRows = amounts.map row := by
    rw [amountRows, List.map_filterMap]
    refine List.filterMap_congr fun record _ => ?_
    rw [Option.map_map]
    rfl
  have hshown : ∀ (column? : Option Identifier) (pair : Binary64 × Record),
      s.shownField? column? pair.2 = (row pair).shown? (column?.map (·.name)) := by
    intro column? pair
    cases column? <;> rfl
  obtain ⟨recordId?, hrecordId, h⟩ := Result.bind_eq_ok_iff.mp h
  obtain ⟨description?, hdescription, h⟩ := Result.bind_eq_ok_iff.mp h
  obtain ⟨awardee?, hawardee, h⟩ := Result.bind_eq_ok_iff.mp h
  obtain ⟨-, -, h⟩ := Result.bind_eq_ok_iff.mp h
  -- the roles of a row are those of its table, whose identifiers have been made above
  have hreport : ∀ pair, (row pair).roles config = roles := fun _ => hroles.symm
  rw [← Except.ok.inj h, hrows, sortBy_map, ← List.map_take, List.map_map]
  refine List.map_congr_left fun pair _ => ?_
  simp only [Function.comp_apply, AmountRow.report, AmountRow.label, hshown, hreport,
    map_name_of_mapM_ofName hrecordId, map_name_of_mapM_ofName hdescription,
    map_name_of_mapM_ofName hawardee]
  rfl

end Selection

namespace SummaryReading

variable {d : Dataset} {config : Config} {table query : String} {summary : TableSummary}

/-- The rows of a table are those of a reading. -/
lemma amountRows_eq (r : SummaryReading d config table query summary) :
    d.amountRows config query table = r.selection.amountRows := by
  rw [Dataset.amountRows, r.found]
  dsimp only
  rw [r.searched, Selection.amountRows, r.records, Search.matching_eq_filter, r.named]
  dsimp only
  rw [← r.resolved]
  refine List.filterMap_congr fun record _ => ?_
  rw [Selection.amount?_eq r.key]

/-- **What a table keeps** are its records of the highest amounts. -/
lemma topRecords_eq (r : SummaryReading d config table query summary) :
    summary.topRecords =
      ((sortBy AmountRow.compareAmounts (d.amountRows config query table)).take
        config.topRecords).map (AmountRow.report config) := by
  have htop := r.top
  rw [Selection.topAmounts] at htop
  rw [r.amountRows_eq]
  split at htop
  · refine Selection.eq_of_topRecords ?_ htop
    rw [r.named, r.resolved]
  · rename_i hkey
    rw [← Except.ok.inj htop, Selection.amountRows_eq_nil hkey]
    exact (congrArg (List.map _) List.take_nil).symm

end SummaryReading

/-! ### What a dashboard selects -/

/-- A record comes before another in a dashboard: its amount is higher, or the amounts are equal and
its table comes first, or the tables are the same and its label does not come later. -/
def TopRecord.Precedes (a b : TopRecord) : Prop :=
  b.amount.compare? a.amount = some .lt ∨ b.amount.compare? a.amount = some .eq ∧
    (a.table < b.table ∨ a.table = b.table ∧ a.label ≤ b.label)

section

variable {config : Config}

/-- The order of rows in a dashboard: by amount, table and label. -/
def AmountRow.compareReports (config : Config) : AmountRow → AmountRow → Ordering :=
  compareLex compareAmounts
    (compareLex (fun a b => compareText a.table b.table)
      fun a b => compareText (a.label config) (b.label config))

instance : Std.TransCmp (AmountRow.compareReports config) := by
  have htable : Std.TransCmp fun a b : AmountRow => compareText a.table b.table :=
    transCmp_on AmountRow.table
  have hlabel : Std.TransCmp fun a b : AmountRow =>
      compareText (a.label config) (b.label config) := transCmp_on (AmountRow.label config)
  exact inferInstanceAs (Std.TransCmp (compareLex _ (compareLex _ _)))

/-- A number that is not not-a-number has a value. -/
lemma Binary64.scaled?_eq {x : Binary64} (h : x ≠ .nan) : x.scaled? = some (Cell.realQuanta x) := by
  cases x with
  | finite b m => rfl
  | infinite b => rfl
  | nan => exact absurd rfl h

/-- Numbers are compared by their values. -/
lemma Binary64.compare?_eq_compare {x y : Binary64} (hx : x ≠ .nan) (hy : y ≠ .nan) :
    x.compare? y = some (compare (Cell.realQuanta x) (Cell.realQuanta y)) := by
  rw [compare?, scaled?_eq hx, scaled?_eq hy]
  rfl

/-- Numbers are counted in quanta by their values. -/
lemma Binary64.map_scaled?_eq {xs : List Binary64} (h : ∀ x ∈ xs, x ≠ .nan) :
    xs.map scaled? = (xs.map Cell.realQuanta).map some := by
  rw [List.map_map]
  exact List.map_congr_left fun x hx => scaled?_eq (h x hx)

/-- Descending numbers have descending values. -/
lemma Binary64.pairwise_realQuanta {xs : List Binary64} (h : ∀ x ∈ xs, x ≠ .nan)
    (hsorted : xs.Pairwise fun x y => x.compare? y ≠ some .lt) :
    (xs.map Cell.realQuanta).Pairwise (· ≥ ·) := by
  rw [List.pairwise_map]
  refine hsorted.imp_of_mem fun {x y} hx hy hcompare => ?_
  rw [compare?_eq_compare (h x hx) (h y hy)] at hcompare
  exact not_lt.mp fun hlt => hcompare (congrArg some (Int.compare_eq_lt.mpr hlt))

/-- Rows are reported in the order of rows. -/
lemma AmountRow.compareDescending_report {a b : AmountRow} (ha : a.amount ≠ .nan)
    (hb : b.amount ≠ .nan) :
    (a.report config).compareDescending (b.report config) = compareReports config a b := by
  have hamounts : a.amount.compareDescending b.amount = compareAmounts a b := by
    rw [Binary64.compareDescending, Binary64.compare?_eq_compare hb ha]
    rfl
  exact congrArg (Ordering.then · _) hamounts

/-- Rows in the order of rows are reported in the order of a dashboard. -/
lemma AmountRow.precedes_report {a b : AmountRow} (ha : a.amount ≠ .nan) (hb : b.amount ≠ .nan)
    (h : (compareReports config a b).isLE) : (a.report config).Precedes (b.report config) := by
  have hcompare : (b.report config).amount.compare? (a.report config).amount =
      some (compareAmounts a b) := Binary64.compare?_eq_compare hb ha
  rw [TopRecord.Precedes, hcompare, Option.some.injEq, Option.some.injEq]
  rw [compareReports, compareLex, compareLex, Ordering.isLE_then_iff_or, Ordering.isLE_then_iff_or,
    isLE_compareText_iff] at h
  refine h.imp_right (And.imp_right (Or.imp ?_ (And.imp_left Std.LawfulEqCmp.eq_of_compare)))
  exact compareOfLessAndEq_eq_lt.mp

variable {tables : List String} {rows : String → List AmountRow} {limit : Nat}

/-- What the tables keep of their rows: of each table as many as a limit, the highest amounts. -/
def keptRows (rows : String → List AmountRow) (limit : Nat) (tables : List String) :
    List AmountRow :=
  tables.flatMap fun table => (sortBy AmountRow.compareAmounts (rows table)).take limit

/-- The rows in the order in which they are reported. -/
def sortReports (config : Config) (rows : List AmountRow) : List AmountRow :=
  sortBy (fun a b => (a.report config).compareDescending (b.report config)) rows

/-- The tables keep each row once. -/
lemma keptRows_subperm : (keptRows rows limit tables).Subperm (tables.flatMap rows) := by
  have hcut : (keptRows rows limit tables).Sublist
      (tables.flatMap fun table => sortBy AmountRow.compareAmounts (rows table)) :=
    List.Sublist.flatMap_right tables fun table _ => List.take_sublist limit _
  have hsort : (tables.flatMap fun table => sortBy AmountRow.compareAmounts (rows table)).Perm
      (tables.flatMap rows) :=
    List.Perm.flatMap_left tables fun table _ => sortBy_perm _ (rows table)
  exact hcut.subperm.trans hsort.subperm

/-- No row is reported more often than the tables have it. -/
lemma take_sortReports_subperm :
    ((sortReports config (keptRows rows limit tables)).take limit).Subperm
      (tables.flatMap rows) := by
  have hcut : ((sortReports config (keptRows rows limit tables)).take limit).Subperm
      (sortReports config (keptRows rows limit tables)) := (List.take_sublist _ _).subperm
  exact (hcut.trans (sortBy_perm _ _).subperm).trans keptRows_subperm

/-- Rows from the highest amount down have descending amounts. -/
lemma pairwise_quanta_sortBy (rows : List AmountRow) :
    ((sortBy AmountRow.compareAmounts rows).map AmountRow.quanta).Pairwise (· ≥ ·) := by
  have hsorted : (sortBy AmountRow.compareAmounts rows).Pairwise fun a b =>
      (AmountRow.compareAmounts a b).isLE := sortBy_pairwise rows
  rw [List.pairwise_map]
  exact hsorted.imp Int.isLE_compare.mp

section

variable (hrows : ∀ row ∈ tables.flatMap rows, row.amount ≠ .nan)

include hrows

/-- Rows of numbers are reported in the order of rows. -/
lemma sortReports_pairwise : (sortReports config (keptRows rows limit tables)).Pairwise
    fun a b => (AmountRow.compareReports config a b).isLE := by
  -- the order of reports is not transitive where not-a-number is equal to everything
  have hsame : sortReports config (keptRows rows limit tables) =
      sortBy (AmountRow.compareReports config) (keptRows rows limit tables) :=
    sortBy_congr fun a ha b hb => AmountRow.compareDescending_report
      (hrows a (keptRows_subperm.subset ha)) (hrows b (keptRows_subperm.subset hb))
  rw [hsame]
  exact sortBy_pairwise _

/-- What is reported of rows of numbers is in the order of a dashboard. -/
lemma pairwise_precedes_sortReports :
    ((sortReports config (keptRows rows limit tables)).map
      (AmountRow.report config)).Pairwise TopRecord.Precedes := by
  have hnumber : ∀ row ∈ sortReports config (keptRows rows limit tables), row.amount ≠ .nan :=
    fun row hrow => hrows row (keptRows_subperm.subset ((sortBy_perm _ _).mem_iff.mp hrow))
  rw [List.pairwise_map]
  exact (sortReports_pairwise hrows).imp_of_mem fun ha hb hle =>
    AmountRow.precedes_report (hnumber _ ha) (hnumber _ hb) hle

/-- **What a dashboard selects** from what its tables keep are the highest of all amounts. -/
lemma take_quanta_sortReports {sorted : List Int}
    (hperm : sorted.Perm ((tables.flatMap rows).map AmountRow.quanta))
    (hsorted : sorted.Pairwise (· ≥ ·)) :
    ((sortReports config (keptRows rows limit tables)).map AmountRow.quanta).take limit =
      sorted.take limit := by
  let values (table : String) : List Int := (rows table).map AmountRow.quanta
  let ordered (table : String) : List Int :=
    (sortBy AmountRow.compareAmounts (rows table)).map AmountRow.quanta
  have hordered : ∀ table ∈ tables, (ordered table).Perm (values table) :=
    fun table _ => (sortBy_perm _ (rows table)).map _
  have hmerged : ((sortReports config (keptRows rows limit tables)).map AmountRow.quanta).Perm
      (tables.flatMap fun table => (ordered table).take limit) := by
    refine ((sortBy_perm _ _).map _).trans (List.Perm.of_eq ?_)
    rw [keptRows, List.map_flatMap]
    exact List.flatMap_congr fun table _ => List.map_take
  have hmergedOrder : ((sortReports config (keptRows rows limit tables)).map
      AmountRow.quanta).Pairwise (· ≥ ·) := by
    have hreports : (sortReports config (keptRows rows limit tables)).Pairwise fun a b =>
        (AmountRow.compareReports config a b).isLE := sortReports_pairwise hrows
    rw [List.pairwise_map]
    refine hreports.imp fun {a b} hle => ?_
    rcases Ordering.isLE_then_iff_or.mp hle with hlt | ⟨heq, -⟩
    · exact (Int.compare_eq_lt.mp hlt).le
    · exact (Int.compare_eq_eq.mp heq).le
  rw [List.map_flatMap] at hperm
  exact take_eq_of_cuts hordered (fun table _ => pairwise_quanta_sortBy (rows table)) hmerged
    hmergedOrder hperm hsorted

/-- The amounts that a dashboard reports are the first of all amounts in descending order. -/
lemma map_scaled?_sortReports {sorted : List Binary64}
    (hperm : sorted.Perm ((tables.flatMap rows).map (·.amount)))
    (hsorted : sorted.Pairwise fun x y => x.compare? y ≠ some .lt) :
    ((sortReports config (keptRows rows limit tables)).take limit).map (·.amount.scaled?) =
      (sorted.take limit).map Binary64.scaled? := by
  have hnumber : ∀ x ∈ sorted, x ≠ .nan := by
    intro x hx
    obtain ⟨row, hrow, rfl⟩ := List.mem_map.mp (hperm.mem_iff.mp hx)
    exact hrows row hrow
  have hquanta : ((sortReports config (keptRows rows limit tables)).map AmountRow.quanta).take
      limit = (sorted.map Cell.realQuanta).take limit := by
    refine take_quanta_sortReports hrows ?_ (Binary64.pairwise_realQuanta hnumber hsorted)
    have hvalues := hperm.map Cell.realQuanta
    rwa [List.map_map] at hvalues
  have hscaled : ∀ row ∈ (sortReports config (keptRows rows limit tables)).take limit,
      row.amount.scaled? = some row.quanta :=
    fun row hrow => Binary64.scaled?_eq (hrows row (take_sortReports_subperm.subset hrow))
  calc ((sortReports config (keptRows rows limit tables)).take limit).map (·.amount.scaled?)
      = (((sortReports config (keptRows rows limit tables)).map AmountRow.quanta).take
          limit).map some := by
        rw [List.map_congr_left hscaled, ← List.map_take, List.map_map]
        rfl
    _ = ((sorted.take limit).map Cell.realQuanta).map some := by rw [hquanta, ← List.map_take]
    _ = (sorted.take limit).map Binary64.scaled? :=
        (Binary64.map_scaled?_eq fun x hx => hnumber x (List.mem_of_mem_take hx)).symm

end

end

/-! ### The dashboard -/

/-- The base tables of a dataset are listed by name. -/
lemma Contents.exists_baseTables (d : Dataset) (config : Config) :
    ∃ base, Contents.baseTables (.dataset d) config = .ok base ∧
      base.Pairwise fun a b => (compareText a b).isLE :=
  ⟨_, rfl, (sortBy_pairwise _).sublist List.filter_sublist⟩

namespace Explorer

variable {d : Dataset} {config : Config} {query : String}

/-- The tables of the summaries are those that can be summarised. -/
lemma map_table_summaries (e : Explorer) (query : String) (tables : List String) :
    (e.summaries query tables).map (·.table) =
      tables.filter fun table => (e.tableSummary table query).toOption.isSome := by
  rw [summaries, List.map_filterMap, ← List.filterMap_eq_filter]
  refine List.filterMap_congr fun table _ => ?_
  rw [Option.guard]
  cases hsummary : e.tableSummary table query with
  | error err => rfl
  | ok summary => exact congrArg some (TableSummary.table_of_compute hsummary)

/-- A dashboard selects from what its tables keep. -/
lemma flatMap_topRecords {tables : List String} {partials : List TableSummary}
    (h : ∀ p ∈ partials, p ∈ summaries ⟨.dataset d, config⟩ query tables) :
    partials.flatMap (·.topRecords) =
      (keptRows (d.amountRows config query) config.topRecords (partials.map (·.table))).map
        (AmountRow.report config) := by
  rw [keptRows, List.map_flatMap, List.flatMap_map]
  refine List.flatMap_congr fun p hp => ?_
  obtain ⟨table, -, hsummary⟩ := mem_summaries_iff.mp (h p hp)
  obtain ⟨r⟩ := SummaryReading.exists_of_compute hsummary
  rw [r.topRecords_eq, r.summarised]

/-- The dashboard of a dataset has the base tables that can be summarised, and selects from what
these tables keep. -/
lemma exists_summarizeAll (d : Dataset) (config : Config) (query : String) :
    let e : Explorer := ⟨.dataset d, config⟩
    ∃ base aggregate, e.baseTables = .ok base ∧ e.summarizeAll query = .ok aggregate ∧
      aggregate.tables =
        base.filter (fun table => (e.tableSummary table query).toOption.isSome) ∧
      aggregate.topRecords =
        ((sortReports config (keptRows (d.amountRows config query) config.topRecords
          aggregate.tables)).take config.topRecords).map (AmountRow.report config) := by
  intro e
  obtain ⟨base, hbase, horder⟩ := Contents.exists_baseTables d config
  let partials := sortBy (fun p q => compareText p.table q.table) (e.summaries query base)
  -- the base tables come by name, so that ordering the summaries changes nothing
  have htables : partials.map (·.table) =
      base.filter fun table => (e.tableSummary table query).toOption.isSome := by
    rw [← sortBy_map, map_table_summaries]
    exact sortBy_eq_self (horder.sublist List.filter_sublist)
  have htop : (sortBy TopRecord.compareDescending (partials.flatMap (·.topRecords))).take
      config.topRecords = ((sortReports config (keptRows (d.amountRows config query)
        config.topRecords (partials.map (·.table)))).take config.topRecords).map
          (AmountRow.report config) := by
    rw [flatMap_topRecords fun p hp => (sortBy_perm _ _).mem_iff.mp hp, sortBy_map,
      ← List.map_take]
    rfl
  exact ⟨base, _, hbase, Result.bind_eq_ok hbase rfl, htables, htop⟩

/-- **The records of a dashboard are those of the highest amounts.**  The tables that contribute are
the base tables that can be summarised.  Each record that is reported is a row of one of them, and
no row is reported more than once.  If the amounts are numbers, the records are in the order of
their amounts, tables and labels, and their amounts are the first of all amounts that the search
finds in these tables, in descending order, as many as are kept. -/
theorem summarizeAll_topRecords (d : Dataset) (config : Config) (query : String) :
    let e : Explorer := ⟨.dataset d, config⟩
    ∃ base aggregate, e.baseTables = .ok base ∧ e.summarizeAll query = .ok aggregate ∧
      aggregate.tables =
        base.filter (fun table => (e.tableSummary table query).toOption.isSome) ∧
      (∀ table ∈ base, ∀ rel, Summarizable d config table query rel → table ∈ aggregate.tables) ∧
      let rows := aggregate.tables.flatMap (d.amountRows config query)
      (∃ reported : List AmountRow, reported.Subperm rows ∧
        aggregate.topRecords = reported.map (AmountRow.report config)) ∧
      ((∀ row ∈ rows, row.amount ≠ .nan) →
        aggregate.topRecords.Pairwise TopRecord.Precedes ∧
        ∀ sorted : List Binary64, sorted.Perm (rows.map (·.amount)) →
          sorted.Pairwise (fun x y => x.compare? y ≠ some .lt) →
          aggregate.topRecords.map (·.amount.scaled?) =
            (sorted.take config.topRecords).map Binary64.scaled?) := by
  intro e
  obtain ⟨base, aggregate, hbase, haggregate, htables, htop⟩ := exists_summarizeAll d config query
  refine ⟨base, aggregate, hbase, haggregate, htables, fun table htable rel hrel => ?_, ?_⟩
  · obtain ⟨summary, hsummary⟩ := TableSummary.exists_compute hrel
    have hmade : e.tableSummary table query = .ok summary := hsummary
    rw [htables, List.mem_filter, hmade]
    exact ⟨htable, rfl⟩
  intro rows
  refine ⟨⟨_, take_sortReports_subperm, htop⟩, fun hnumbers => ⟨?_, fun sorted hperm hsorted => ?_⟩⟩
  · rw [htop, List.map_take]
    exact (pairwise_precedes_sortReports hnumbers).sublist (List.take_sublist _ _)
  · rw [htop, List.map_map]
    exact map_scaled?_sortReports hnumbers hperm hsorted

/-- Two amounts. -/
def twoAmounts : Table :=
  .ofTexts "b" ["Expediente", "Importe"] [["B1", "75,00"], ["B2", "1.000,00"]]

/-- Three amounts, one of which is among the two. -/
def threeAmounts : Table :=
  .ofTexts "a" ["Expediente", "Importe"] [["A1", "100,00"], ["A2", "50,00"], ["A3", "75,00"]]

/-- Both tables can be summarised; of their five amounts three are reported, so that one of two that
are equal is cut off. -/
theorem topRecords_of_fiveAmounts :
    let d : Dataset := .ofTables [twoAmounts, threeAmounts]
    let config : Config := { topRecords := 3 }
    Summarizable d config "a" "" threeAmounts.relation ∧
      ∃ aggregate, summarizeAll ⟨.dataset d, config⟩ "" = .ok aggregate ∧
        "a" ∈ aggregate.tables ∧ aggregate.tables = ["a", "b"] ∧
        aggregate.topRecords.Pairwise TopRecord.Precedes ∧
        aggregate.topRecords.map (·.amount.scaled?) =
          [Binary64.ofInt 1000, .ofInt 100, .ofInt 75].map Binary64.scaled? := by
  intro d config
  have hfound : Dataset.relation? (.ofTables [twoAmounts, threeAmounts]) "a" =
      some threeAmounts.relation := by rfl
  have hsummarizable : Summarizable d config "a" "" threeAmounts.relation := by
    refine { served := ?_, texts := ?_, tables := ?_, topRecords_lt := ?_ }
    · exact
        { table_valid := by decide +kernel
          found := hfound
          columns_valid := by decide +kernel
          columns_ne_nil := by decide +kernel
          query_valid := by decide +kernel
          sort_known := fun column hsort => nomatch hsort
          searchable := ⟨rfl, .inl (by decide +kernel)⟩ }
    · decide +kernel
    · decide +kernel
    · decide +kernel
  obtain ⟨base, aggregate, hbase, haggregate, htables, hcontributes, -, hhighest⟩ :=
    summarizeAll_topRecords d config ""
  obtain rfl : ["a", "b"] = base := Except.ok.inj hbase
  have hall : ["a", "b"].filter (fun table =>
      (tableSummary ⟨.dataset d, config⟩ table "").toOption.isSome) = ["a", "b"] := by
    decide +kernel
  rw [hall] at htables
  have hamounts : (aggregate.tables.flatMap (d.amountRows config "")).map (·.amount) =
      [.ofInt 100, .ofInt 50, .ofInt 75, .ofInt 75, .ofInt 1000] := by
    rw [htables]
    decide +kernel
  obtain ⟨horder, htaken⟩ := hhighest fun row hrow hnan => by
    have hmem := List.mem_map_of_mem (f := (·.amount)) hrow
    rw [hamounts, hnan] at hmem
    exact absurd hmem (by decide +kernel)
  exact ⟨hsummarizable, aggregate, haggregate, hcontributes "a" (by decide) _ hsummarizable,
    htables, horder, htaken [.ofInt 1000, .ofInt 100, .ofInt 75, .ofInt 75, .ofInt 50]
      (by rw [hamounts]; decide +kernel) (by decide +kernel)⟩

end Explorer

end TableExplorer
