import Mathlib
import TableExplorer.Proofs.Dashboard.AwardeeCounts
import TableExplorer.Proofs.Dashboard.SingleTables

/-!
The awardees of a dashboard.  Each table counts the names of its records by their folded forms and
keeps the most frequent ones; the dashboard adds up what the tables keep.  So a total counts no name
that is not there; and where no table has more names than it keeps, the totals are exact and the
ranking is that of all names.

* `Dataset.awardeeNames`: the names of the records that a search finds in a table.
* `TableSummary.keySum_awardeeEntries_le`, `TableSummary.keySum_awardeeEntries`: **what a table
  counts under a folded name**, with and without a cut.
* `forall₂_labels_awardees`: a label on the axis shows a name that folds to its key.
* `StackedSeries.IsExactRanking`: a series has the exact counts of the most frequent names.
* `Explorer.summarizeAll_awardees`: **the awardees of a dashboard**.
-/

namespace TableExplorer

/-! ### Names -/

/-- The names of the records that a search for the query finds in a table, if the table has a column
of awardees. -/
def Dataset.awardeeNames (d : Dataset) (config : Config) (query table : String) : List String :=
  match d.relation? table with
  | none => []
  | some rel =>
    let columns := columnNames rel.columns
    match (TableRoles.resolve config table columns).awardee?, Search.ofQuery columns query with
    | some column, .ok search =>
      rel.awardeeNames column (rel.records.filter (search.finds rel))
    | _, _ => []

/-- The folded names of the records that a search finds in a table. -/
def Dataset.awardeeKeys (d : Dataset) (config : Config) (query table : String) : List String :=
  (d.awardeeNames config query table).map Text.fold

/-! ### Sums under a key -/

/-- Entries with different keys have their own values under their keys. -/
lemma keySum_of_nodup {entries : List (SeriesEntry Nat)} (h : (entries.map (·.key)).Nodup)
    {e : SeriesEntry Nat} (he : e ∈ entries) : keySum entries e.key = e.value := by
  induction entries with
  | nil => cases he
  | cons first rest ih =>
      rw [List.map_cons] at h
      obtain ⟨hfirst, hrest⟩ := List.nodup_cons.mp h
      rw [keySum_cons]
      rcases List.mem_cons.mp he with rfl | he
      · rw [if_pos rfl, keySum_eq_zero hfirst, Nat.add_zero]
      · have hother : first.key ≠ e.key := by
          intro heq
          rw [heq] at hfirst
          exact hfirst (List.mem_map_of_mem he)
        rw [if_neg hother, Nat.zero_add, ih hrest he]

/-- Some of the entries do not add up to more than all. -/
lemma keySum_le_of_sublist {entries entries' : List (SeriesEntry Nat)}
    (h : entries.Sublist entries') (key : String) : keySum entries key ≤ keySum entries' key :=
  ((h.filter _).map _).sum_le_sum fun _ _ => Nat.zero_le _

/-- An awardee as an entry of a series. -/
def AwardeeCount.entry (e : AwardeeCount) : SeriesEntry Nat := ⟨e.key, e.display, e.count⟩

/-- **A tally counts the names under each key.** -/
lemma IsAwardeeTally.keySum_eq {config : Config} {entries : List AwardeeCount}
    {names : List String} (h : IsAwardeeTally config entries names) (key : String) :
    keySum (entries.map AwardeeCount.entry) key = (names.map Text.fold).count key := by
  have hkeys : (entries.map AwardeeCount.entry).map (·.key) = entries.map (·.key) :=
    List.map_map
  by_cases hkey : key ∈ entries.map (·.key)
  · obtain ⟨e, he, rfl⟩ := List.mem_map.mp hkey
    rw [← h.count e he]
    exact keySum_of_nodup (hkeys ▸ h.nodup) (List.mem_map_of_mem (f := AwardeeCount.entry) he)
  · have hnone : key ∉ names.map Text.fold := fun hmem => hkey ((h.occurs key).mpr hmem)
    rw [keySum_eq_zero (hkeys ▸ hkey), List.count_eq_zero_of_not_mem hnone]

/-! ### What a table counts -/

namespace TableSummary

variable {d : Dataset} {config : Config} {query : String} {p : TableSummary}

/-- The awardees of a summary are the first of a tally of the names that are found. -/
lemma exists_ranking (h : compute (.dataset d) config p.table query = .ok p) :
    ∃ ranking, IsAwardeeTally config ranking (d.awardeeNames config query p.table) ∧
      p.awardees = ranking.take config.awardeesPerTable := by
  obtain ⟨r⟩ := SummaryReading.exists_of_compute h
  have hawardees := r.awardees
  rw [Dataset.awardeeNames, r.found]
  dsimp only
  rw [← r.resolved, r.searched]
  cases hcolumn : r.roles.awardee? with
  | none =>
      rw [hcolumn] at hawardees
      refine ⟨[], isAwardeeTally_countAwardees config [], ?_⟩
      rw [List.take_nil]
      exact (Except.ok.inj hawardees).symm
  | some column =>
      rw [hcolumn, withColumn_some_eq_ok_iff] at hawardees
      obtain ⟨id, rfl, hkept⟩ := hawardees
      obtain ⟨ranking, htally, -, htake⟩ := Selection.exists_ranking hkept
      rw [r.records, Search.matching_eq_filter] at htally
      exact ⟨ranking, htally, htake⟩

/-- **A table counts no name that is not there.** -/
lemma keySum_awardeeEntries_le (h : compute (.dataset d) config p.table query = .ok p)
    (key : String) :
    keySum p.awardeeEntries key ≤ (d.awardeeKeys config query p.table).count key := by
  obtain ⟨ranking, htally, hkept⟩ := exists_ranking h
  calc keySum p.awardeeEntries key
      = keySum ((ranking.take config.awardeesPerTable).map AwardeeCount.entry) key := by
        rw [awardeeEntries, hkept]
        rfl
    _ ≤ keySum (ranking.map AwardeeCount.entry) key :=
        keySum_le_of_sublist ((List.take_sublist _ _).map _) key
    _ = (d.awardeeKeys config query p.table).count key := htally.keySum_eq key

/-- A table that has no more names than it keeps keeps a tally of its names. -/
lemma isAwardeeTally_awardees (h : compute (.dataset d) config p.table query = .ok p)
    (hlimit : (d.awardeeKeys config query p.table).dedup.length ≤ config.awardeesPerTable) :
    IsAwardeeTally config p.awardees (d.awardeeNames config query p.table) := by
  obtain ⟨ranking, htally, hkept⟩ := exists_ranking h
  rw [Dataset.awardeeKeys, ← htally.length_eq] at hlimit
  rw [hkept, List.take_of_length_le hlimit]
  exact htally

/-- **A table that has no more names than it keeps counts them exactly.** -/
lemma keySum_awardeeEntries (h : compute (.dataset d) config p.table query = .ok p)
    (hlimit : (d.awardeeKeys config query p.table).dedup.length ≤ config.awardeesPerTable)
    (key : String) :
    keySum p.awardeeEntries key = (d.awardeeKeys config query p.table).count key :=
  (isAwardeeTally_awardees h hlimit).keySum_eq key

/-- The keys of a table that has no more names than it keeps are its folded names. -/
lemma mem_keys_awardeeEntries (h : compute (.dataset d) config p.table query = .ok p)
    (hlimit : (d.awardeeKeys config query p.table).dedup.length ≤ config.awardeesPerTable)
    (key : String) :
    key ∈ p.awardeeEntries.map (·.key) ↔ key ∈ d.awardeeKeys config query p.table := by
  rw [awardeeEntries, List.map_map]
  exact (isAwardeeTally_awardees h hlimit).occurs key

/-- A table that has no more names than it keeps has entries if it has names. -/
lemma isEmpty_awardeeEntries (h : compute (.dataset d) config p.table query = .ok p)
    (hlimit : (d.awardeeKeys config query p.table).dedup.length ≤ config.awardeesPerTable) :
    p.awardeeEntries.isEmpty = (d.awardeeKeys config query p.table).isEmpty := by
  rw [Bool.eq_iff_iff, List.isEmpty_iff, List.isEmpty_iff, ← List.map_eq_nil_iff (f := (·.key)),
    List.eq_nil_iff_forall_not_mem, List.eq_nil_iff_forall_not_mem]
  exact forall_congr' fun key => not_congr (mem_keys_awardeeEntries h hlimit key)

/-- An entry of a table shows a name that folds to its key. -/
lemma exists_name_of_mem_awardeeEntries
    (h : compute (.dataset d) config p.table query = .ok p) {e : SeriesEntry Nat}
    (he : e ∈ p.awardeeEntries) :
    ∃ name ∈ d.awardeeNames config query p.table,
      Text.fold name = e.key ∧ e.display = config.awardeeLabel name := by
  obtain ⟨ranking, htally, hkept⟩ := exists_ranking h
  obtain ⟨a, ha, rfl⟩ := List.mem_map.mp he
  rw [hkept] at ha
  obtain ⟨name, hname, hdisplay⟩ := htally.display a (List.mem_of_mem_take ha)
  have hkey := List.find?_some hname
  exact ⟨name, List.mem_of_find?_eq_some hname, (beq_iff_eq.mp hkey).symm, hdisplay⟩

end TableSummary

/-! ### The merged ranking -/

/-- A series has the exact counts of the most frequent of some items, which the tables have: its
totals are the numbers of their occurrences in all tables, its stacks, one for each table that has
items, are the numbers of those in the table, there are as many of them as the limit allows, and no
item that is left out occurs more often than one that is not. -/
structure StackedSeries.IsExactRanking (s : StackedSeries Nat) (limit : Nat) (tables : List String)
    (items : String → List String) (keys : List String) : Prop where
  totals : s.totals = keys.map (tables.flatMap items).count
  byTable : s.byTable = (tables.filter fun t => !(items t).isEmpty).map fun t =>
    ⟨t, keys.map (items t).count⟩
  length_keys : keys.length = min limit (tables.flatMap items).dedup.length
  occurs : ∀ key ∈ keys, key ∈ tables.flatMap items
  cut : ∀ dropped ∈ tables.flatMap items, dropped ∉ keys → ∀ kept ∈ keys,
    (tables.flatMap items).count dropped ≤ (tables.flatMap items).count kept

section

variable {d : Dataset} {config : Config} {query : String} {partials : List TableSummary}

/-- The names in all tables are counted table by table. -/
lemma count_flatMap_awardeeKeys (key : String) :
    ((partials.map (·.table)).flatMap (d.awardeeKeys config query)).count key =
      (partials.map fun p => (d.awardeeKeys config query p.table).count key).sum := by
  rw [List.flatMap_map, List.count_flatMap]
  rfl

variable (hmade : ∀ p ∈ partials, TableSummary.compute (.dataset d) config p.table query = .ok p)

include hmade

/-- **The labels show names that fold to their keys.** -/
lemma forall₂_labels_awardees (ranking : Ranking) (limit? : Option Nat) :
    let contributed := contributions TableSummary.awardeeEntries partials
    List.Forall₂ (fun label key =>
        ∃ name ∈ (partials.map (·.table)).flatMap (d.awardeeNames config query),
          Text.fold name = key ∧ label = config.awardeeLabel name)
      (combine ranking limit? contributed).labels
      ((rank ranking limit? contributed).map (·.key)) := by
  intro contributed
  have hmerge := isMergeOf_combine ranking limit? TableSummary.awardeeEntries partials
  rw [hmerge.labels, List.forall₂_map_left_iff, List.forall₂_same]
  intro key hkey
  obtain ⟨e, he, rfl, hshown⟩ := exists_displayOf_eq (hmerge.occurs key hkey)
  obtain ⟨p, hp, he⟩ := List.mem_flatMap.mp he
  obtain ⟨name, hname, hfold, hdisplay⟩ :=
    TableSummary.exists_name_of_mem_awardeeEntries (hmade p hp) he
  refine ⟨name, List.mem_flatMap.mpr ⟨p.table, List.mem_map_of_mem hp, hname⟩, hfold, ?_⟩
  rw [hshown, hdisplay]

/-- **No total counts a name that is not there.** -/
lemma totals_awardees_le (ranking : Ranking) (limit? : Option Nat) :
    let contributed := contributions TableSummary.awardeeEntries partials
    List.Forall₂ (fun total key =>
        total ≤ ((partials.map (·.table)).flatMap (d.awardeeKeys config query)).count key)
      (combine ranking limit? contributed).totals
      ((rank ranking limit? contributed).map (·.key)) := by
  intro contributed
  have hmerge := isMergeOf_combine ranking limit? TableSummary.awardeeEntries partials
  rw [hmerge.totals, List.forall₂_map_left_iff, List.forall₂_same]
  intro key _
  rw [keySum_flatMap, count_flatMap_awardeeKeys]
  exact List.sum_le_sum fun p hp => TableSummary.keySum_awardeeEntries_le (hmade p hp) key

variable (hlimit : ∀ p ∈ partials,
  (d.awardeeKeys config query p.table).dedup.length ≤ config.awardeesPerTable)

include hlimit

/-- Without a cut the values under a key are the numbers of names. -/
lemma keySum_flatMap_awardeeEntries :
    keySum (partials.flatMap TableSummary.awardeeEntries) =
      ((partials.map (·.table)).flatMap (d.awardeeKeys config query)).count := by
  funext key
  rw [keySum_flatMap, count_flatMap_awardeeKeys]
  exact congrArg List.sum (List.map_congr_left fun p hp =>
    TableSummary.keySum_awardeeEntries (hmade p hp) (hlimit p hp) key)

/-- Without a cut the keys are the folded names. -/
lemma mem_keys_flatMap_awardeeEntries (key : String) :
    key ∈ (partials.flatMap TableSummary.awardeeEntries).map (·.key) ↔
      key ∈ (partials.map (·.table)).flatMap (d.awardeeKeys config query) := by
  rw [List.map_flatMap, List.flatMap_map, List.mem_flatMap, List.mem_flatMap]
  exact exists_congr fun p => and_congr_right fun hp =>
    TableSummary.mem_keys_awardeeEntries (hmade p hp) (hlimit p hp) key

/-- **Without a cut of a table, the ranking is that of all names.** -/
lemma isExactRanking_awardees (limit : Nat) :
    let contributed := contributions TableSummary.awardeeEntries partials
    (combine .byTotal (some limit) contributed).IsExactRanking limit (partials.map (·.table))
      (d.awardeeKeys config query) ((rank .byTotal (some limit) contributed).map (·.key)) := by
  intro contributed
  have hmerge := isMergeOf_combine .byTotal (some limit) TableSummary.awardeeEntries partials
  have hcut := rank_cut limit TableSummary.awardeeEntries partials
  have hsum := keySum_flatMap_awardeeEntries hmade hlimit
  have hkeys := mem_keys_flatMap_awardeeEntries hmade hlimit
  rw [hsum] at hcut
  refine ⟨?_, ?_, ?_, fun key hkey => (hkeys key).mp (hmerge.occurs key hkey), ?_⟩
  · rw [hmerge.totals, hsum]
  · have hempty : ∀ p ∈ partials, (!p.awardeeEntries.isEmpty) =
        !(d.awardeeKeys config query p.table).isEmpty := fun p hp =>
      congrArg (!·) (TableSummary.isEmpty_awardeeEntries (hmade p hp) (hlimit p hp))
    rw [hmerge.byTable, List.filter_map, List.map_map, List.filter_congr hempty]
    refine List.map_congr_left fun p hp => ?_
    have hp := (List.mem_filter.mp hp).1
    have hown : keySum p.awardeeEntries = (d.awardeeKeys config query p.table).count :=
      funext (TableSummary.keySum_awardeeEntries (hmade p hp) (hlimit p hp))
    rw [hown]
    rfl
  · have hperm := (List.perm_ext_iff_of_nodup (List.nodup_dedup _) (List.nodup_dedup _)).mpr
      fun key => List.mem_dedup.trans ((hkeys key).trans List.mem_dedup.symm)
    rw [hcut.1, hperm.length_eq]
  · intro dropped hdropped
    exact hcut.2 dropped ((hkeys dropped).mpr hdropped)

end

/-! ### The dashboard -/

namespace Explorer

/-- The summaries of a dashboard are made of their tables. -/
lemma compute_of_mem_summaries {e : Explorer} {query : String} {tables : List String}
    {p : TableSummary} (h : p ∈ e.summaries query tables) :
    TableSummary.compute e.contents e.config p.table query = .ok p := by
  obtain ⟨table, -, hsummary⟩ := mem_summaries_iff.mp h
  rw [TableSummary.table_of_compute hsummary]
  exact hsummary

/-- **The awardees of a dashboard.**  The dashboard of a dataset has different keys on the axis of
awardees; each label shows a name that folds to its key, among the names that the search finds in
the contributing tables, and no total is greater than the number of these names that fold to the
key.  If no contributing table has more folded names than are kept of a table, the totals and the
stacks are the numbers of names, and the keys are the most frequent ones, as many as are kept of all
tables. -/
theorem summarizeAll_awardees (d : Dataset) (config : Config) (query : String) :
    let e : Explorer := ⟨.dataset d, config⟩
    ∃ (base : List String) (all : Aggregate) (keys : List String),
      e.baseTables = .ok base ∧ e.summarizeAll query = .ok all ∧
      (∀ t, t ∈ all.tables ↔ t ∈ base ∧ ∃ aggregate, e.summarizeTable t query = .ok aggregate) ∧
      keys.Nodup ∧
      List.Forall₂ (fun label key => ∃ name ∈ all.tables.flatMap (d.awardeeNames config query),
        Text.fold name = key ∧ label = config.awardeeLabel name) all.awardees.labels keys ∧
      List.Forall₂ (fun total key =>
        total ≤ (all.tables.flatMap (d.awardeeKeys config query)).count key)
        all.awardees.totals keys ∧
      ((∀ t ∈ all.tables,
          (d.awardeeKeys config query t).dedup.length ≤ config.awardeesPerTable) →
        all.awardees.IsExactRanking config.awardeesGlobal all.tables
          (d.awardeeKeys config query) keys) := by
  intro e
  obtain ⟨base, hbase, -⟩ := Contents.exists_baseTables d config
  let partials := sortBy (fun p q => compareText p.table q.table) (e.summaries query base)
  have hmade : ∀ p ∈ partials, TableSummary.compute (.dataset d) config p.table query = .ok p :=
    fun p hp => compute_of_mem_summaries ((sortBy_perm _ _).mem_iff.mp hp)
  refine ⟨base, mergeSummaries query (e.summaries query base) (.ofConfig config), _, hbase,
    Result.bind_eq_ok hbase rfl, fun t => ?_, nodup_keys_rank .byTotal (some _) _,
    forall₂_labels_awardees hmade .byTotal _, totals_awardees_le hmade .byTotal _,
    fun hlimit => ?_⟩
  · rw [exists_summarizeTable_iff]
    exact mem_tables_mergeSummaries_iff _
  · exact isExactRanking_awardees hmade
      (fun p hp => hlimit p.table (List.mem_map_of_mem hp)) config.awardeesGlobal

/-- Two spellings of an awardee, another awardee, and none. -/
def severalSpellings : Table :=
  .ofTexts "b" ["Adxudicatario"] [["ACME"], ["Acmé "], ["Beta"], [""]]

/-- Three records of an awardee in a third spelling. -/
def oneSpelling : Table := .ofTexts "a" ["Empresa"] [["acme"], ["acme"], ["acme"]]

/-- Of three awardees in two tables the two most frequent ones are counted, under the spelling that
the first table has, and with the name of blank awardees. -/
theorem awardees_of_severalSpellings :
    let d : Dataset := .ofTables [severalSpellings, oneSpelling]
    let config : Config := { awardeesPerTable := 3, awardeesGlobal := 2 }
    ∃ all keys, summarizeAll ⟨.dataset d, config⟩ "" = .ok all ∧ all.tables = ["a", "b"] ∧
      (∀ t ∈ all.tables, (d.awardeeKeys config "" t).dedup.length ≤ 3) ∧
      all.awardees.IsExactRanking 2 all.tables (d.awardeeKeys config "") keys ∧
      all.awardees.labels = ["acme", "(unnamed)"] ∧ all.awardees.totals = [5, 1] := by
  intro d config
  obtain ⟨base, all, keys, -, hall, -, -, -, -, hexact⟩ := summarizeAll_awardees d config ""
  have hseries : (summarizeAll ⟨.dataset d, config⟩ "").map (fun all =>
      (all.tables, all.awardees.labels, all.awardees.totals)) =
        .ok (["a", "b"], ["acme", "(unnamed)"], [5, 1]) := by decide +kernel
  rw [hall] at hseries
  obtain ⟨htables, hlabels, htotals⟩ : all.tables = ["a", "b"] ∧
      all.awardees.labels = ["acme", "(unnamed)"] ∧ all.awardees.totals = [5, 1] := by
    simpa [Except.map] using hseries
  have hlimit : ∀ t ∈ all.tables, (d.awardeeKeys config "" t).dedup.length ≤ 3 := by
    rw [htables]
    decide +kernel
  exact ⟨all, keys, hall, htables, hlimit, hexact hlimit, hlabels, htotals⟩

end Explorer

end TableExplorer
