import TableExplorer.Proofs.Dashboard.MergedCounts
import TableExplorer.Proofs.Dashboard.TopAmounts

/-!
The dashboard of all tables beside those of the single tables.  Both are put together in the same
way, the one from the summaries of all tables and the others from one summary each; so whatever the
labels on their axes, the one adds up the others.

* `totalAt_combine`, `stackAt_combine`: **what stands at a label** of a merged series, whether it
  has the label or not.
* `StackedSeries.AddsUp`: a series adds up those of its tables; `addsUp_combine`: **merged series
  do**.
* `Explorer.summarizeAll_addsUp`: **the dashboard of all tables adds up those of the single
  tables**.
-/

namespace TableExplorer

namespace StackedSeries

/-- The total of a label; zero without the label. -/
def totalAt (s : StackedSeries Nat) (label : String) : Nat := (s.totalOf? label).getD 0

/-- The value that the stack of a table has at a label; zero without the stack or the label. -/
def stackAt (s : StackedSeries Nat) (table label : String) : Nat :=
  ((s.stackOf? table).bind fun values =>
    (s.labels.findIdx? fun l => l == label).bind fun i => values[i]?).getD 0

/-- A series adds up the series of some tables: at every label, its total is the sum of theirs, and
the value of each table is the total in the table's own series. -/
structure AddsUp (s : StackedSeries Nat) (tables : List String)
    (single : String → StackedSeries Nat) : Prop where
  totals : ∀ label, s.totalAt label = (tables.map fun t => (single t).totalAt label).sum
  byTable : ∀ label, ∀ t ∈ tables, s.stackAt t label = (single t).totalAt label

end StackedSeries

/-! ### What stands at a label -/

/-- The value at the place of a key is that of the key. -/
lemma getElem?_findIdx? {α : Type} (f : String → α) (keys : List String) (key : String) :
    ((keys.findIdx? fun k => k == key).bind fun i => (keys.map f)[i]?) =
      if key ∈ keys then some (f key) else none := by
  induction keys with
  | nil => rfl
  | cons k rest ih =>
      rw [List.findIdx?_cons]
      by_cases hkey : k = key
      · rw [if_pos (beq_iff_eq.mpr hkey), if_pos (List.mem_cons.mpr (.inl hkey.symm)), hkey]
        rfl
      · rw [if_neg (beq_iff_eq.not.mpr hkey), Option.bind_map]
        simp only [Function.comp_def, List.map_cons, List.getElem?_cons_succ, ih, List.mem_cons,
          Ne.symm hkey, false_or]

/-- A key that does not occur has no values. -/
lemma keySum_eq_zero {entries : List (SeriesEntry Nat)} {key : String}
    (h : key ∉ entries.map (·.key)) : keySum entries key = 0 := by
  have hnone : entries.filter (fun e => e.key == key) = [] := by
    refine List.filter_eq_nil_iff.mpr fun e he heq => h ?_
    rw [← beq_iff_eq.mp heq]
    exact List.mem_map_of_mem he
  rw [keySum, hnone]
  rfl

/-- The stack of a table that there is one summary of: none without entries, and else the table's
own sums along the axis. -/
lemma StackedSeries.IsMergeOf.stackOf?_eq {s : StackedSeries Nat}
    {entries : TableSummary → List (SeriesEntry Nat)} {partials : List TableSummary}
    {keys : List String} (h : s.IsMergeOf entries partials keys)
    (hsame : ∀ p ∈ partials, ∀ q ∈ partials, p.table = q.table → p = q) {p : TableSummary}
    (hp : p ∈ partials) :
    s.stackOf? p.table =
      if (entries p).isEmpty then none else some (keys.map (keySum (entries p))) := by
  have hfind : (partials.filter fun q => !(entries q).isEmpty).find? (fun q => q.table == p.table) =
      if (entries p).isEmpty then none else some p := by
    cases hfound : (partials.filter fun q => !(entries q).isEmpty).find?
        fun q => q.table == p.table with
    | none =>
        split
        · rfl
        · rename_i hentries
          have hmem : p ∈ partials.filter fun q => !(entries q).isEmpty :=
            List.mem_filter.mpr ⟨hp, by simpa using hentries⟩
          exact absurd (beq_self_eq_true _) (List.find?_eq_none.mp hfound p hmem)
    | some q =>
        obtain ⟨hq, hentries⟩ := List.mem_filter.mp (List.mem_of_find?_eq_some hfound)
        have htable : (q.table == p.table) = true := by
          simpa using List.find?_some hfound
        obtain rfl := hsame q hq p hp (beq_iff_eq.mp htable)
        rw [if_neg (by simpa using hentries)]
  rw [stackOf?, h.byTable, List.find?_map]
  simp only [Function.comp_def, hfind]
  split
  · rfl
  · rfl

section

variable {entries : TableSummary → List (SeriesEntry Nat)} {partials : List TableSummary}
  (hdisplay : ∀ p, ∀ e ∈ entries p, e.display = e.key)

include hdisplay

/-- The labels of a whole merged series are the keys on its axis. -/
lemma labels_combine_eq_keys (ranking : Ranking) (partials : List TableSummary) :
    (combine ranking none (contributions entries partials)).labels =
      (rank ranking none (contributions entries partials)).map (·.key) :=
  (isMergeOf_combine ranking none entries partials).labels_eq_keys hdisplay

/-- **The total at a label** adds up all values under it. -/
lemma totalAt_combine (ranking : Ranking) (partials : List TableSummary) (label : String) :
    (combine ranking none (contributions entries partials)).totalAt label =
      keySum (partials.flatMap entries) label := by
  have hmerge := isMergeOf_combine ranking none entries partials
  have hkeys : label ∈ (rank ranking none (contributions entries partials)).map (·.key) ↔
      label ∈ (partials.flatMap entries).map (·.key) := by
    rw [mem_keys_rank_none, flatMap_contributions]
  rw [StackedSeries.totalAt, StackedSeries.totalOf?, Option.bind_eq_bind, hmerge.totals,
    labels_combine_eq_keys hdisplay, getElem?_findIdx?]
  split
  · rfl
  · rename_i hlabel
    rw [Option.getD_none, keySum_eq_zero fun h => hlabel (hkeys.mpr h)]

/-- **The value of a table at a label** adds up the table's values under it, if there is one summary
of the table only. -/
lemma stackAt_combine (ranking : Ranking)
    (hsame : ∀ p ∈ partials, ∀ q ∈ partials, p.table = q.table → p = q) {p : TableSummary}
    (hp : p ∈ partials) (label : String) :
    (combine ranking none (contributions entries partials)).stackAt p.table label =
      keySum (entries p) label := by
  have hmerge := isMergeOf_combine ranking none entries partials
  rw [StackedSeries.stackAt, hmerge.stackOf?_eq hsame hp, labels_combine_eq_keys hdisplay]
  by_cases hempty : (entries p).isEmpty = true
  · -- a table without entries has no stack, and no values either
    rw [if_pos hempty, List.isEmpty_iff.mp hempty]
    rfl
  · rw [if_neg hempty, Option.bind_some, getElem?_findIdx?]
    split
    · rfl
    · rename_i hlabel
      rw [Option.getD_none, keySum_eq_zero fun h => hlabel ?_]
      obtain ⟨e, he, rfl⟩ := List.mem_map.mp h
      rw [mem_keys_rank_none, flatMap_contributions]
      exact List.mem_map_of_mem (List.mem_flatMap.mpr ⟨p, hp, he⟩)

/-- **Merged series add up** those of their tables. -/
lemma addsUp_combine (ranking : Ranking)
    (hsame : ∀ p ∈ partials, ∀ q ∈ partials, p.table = q.table → p = q)
    {single : String → StackedSeries Nat}
    (hsingle : ∀ p ∈ partials,
      single p.table = combine ranking none (contributions entries [p])) :
    (combine ranking none (contributions entries partials)).AddsUp (partials.map (·.table))
      single := by
  have htotal : ∀ p ∈ partials, ∀ label,
      (single p.table).totalAt label = keySum (entries p) label := by
    intro p hp label
    rw [hsingle p hp, totalAt_combine hdisplay, List.flatMap_singleton]
  constructor
  · intro label
    rw [totalAt_combine hdisplay, keySum_flatMap, List.map_map]
    exact congrArg List.sum (List.map_congr_left fun p hp => (htotal p hp label).symm)
  · intro label t ht
    obtain ⟨p, hp, rfl⟩ := List.mem_map.mp ht
    rw [stackAt_combine hdisplay ranking hsame hp, htotal p hp]

end

/-- Types are shown as they are. -/
lemma display_typeCountEntries (p : TableSummary) :
    ∀ e ∈ p.typeCountEntries, e.display = e.key := by
  intro e he
  obtain ⟨c, -, rfl⟩ := List.mem_map.mp he
  rfl

/-- Months are shown as they are. -/
lemma display_monthlyCountEntries (p : TableSummary) :
    ∀ e ∈ p.monthlyCountEntries, e.display = e.key := by
  intro e he
  obtain ⟨c, -, rfl⟩ := List.mem_map.mp he
  rfl

/-! ### Attachments -/

/-- The coverage of a table; nothing without an attachment table. -/
def TableSummary.coverage (p : TableSummary) : AttachmentCoverage := p.attachments?.getD {}

/-- The coverage of tables is added up. -/
lemma foldl_attachments (partials : List TableSummary) (a : AttachmentCoverage) :
    (partials.filterMap (·.attachments?)).foldl (· + ·) a =
      ⟨a.covered + (partials.map (·.coverage.covered)).sum,
        a.uncovered + (partials.map (·.coverage.uncovered)).sum⟩ := by
  induction partials generalizing a with
  | nil => rfl
  | cons p rest ih =>
      rw [List.map_cons, List.map_cons, List.sum_cons, List.sum_cons, ← Nat.add_assoc,
        ← Nat.add_assoc, TableSummary.coverage]
      cases hcoverage : p.attachments? with
      | none =>
          rw [List.filterMap_cons_none hcoverage, ih]
          rfl
      | some coverage =>
          rw [List.filterMap_cons_some hcoverage, List.foldl_cons, ih]
          rfl

/-- The coverage of a dashboard is that of its tables, added up. -/
lemma attachments_mergeSummaries (query : String) (summaries : List TableSummary)
    (limits : MergeLimits) :
    let partials := sortBy (fun p q => compareText p.table q.table) summaries
    (mergeSummaries query summaries limits).attachments =
      ⟨(partials.map (·.coverage.covered)).sum, (partials.map (·.coverage.uncovered)).sum⟩ := by
  intro partials
  refine (foldl_attachments partials {}).trans ?_
  rw [Nat.zero_add, Nat.zero_add]

/-! ### The dashboard -/

namespace Explorer

variable {e : Explorer} {query : String} {tables : List String} {p : TableSummary}

/-- The dashboard of a single table is put together from its summary. -/
lemma summarizeTable_of_mem_summaries (h : p ∈ e.summaries query tables) :
    e.summarizeTable p.table query = .ok (mergeSummaries query [p] (.ofConfig e.config)) := by
  obtain ⟨table, -, hsummary⟩ := mem_summaries_iff.mp h
  have hmade : e.tableSummary p.table query = .ok p := by
    rw [TableSummary.table_of_compute hsummary]
    exact hsummary
  exact Result.bind_eq_ok hmade rfl

/-- **The dashboard of all tables adds up those of the single tables.**  A dataset has a dashboard
of its base tables, as far as there is one of the single table; its number of records and the
coverage of attachments are the sums of those of the single tables, and its counts by type and by
month add up theirs, label by label. -/
theorem summarizeAll_addsUp (d : Dataset) (config : Config) (query : String) :
    let e : Explorer := ⟨.dataset d, config⟩
    ∃ (base : List String) (all : Aggregate) (single : String → Aggregate),
      e.baseTables = .ok base ∧ e.summarizeAll query = .ok all ∧
      (∀ t, t ∈ all.tables ↔ t ∈ base ∧ ∃ aggregate, e.summarizeTable t query = .ok aggregate) ∧
      (∀ t ∈ all.tables, e.summarizeTable t query = .ok (single t)) ∧
      all.totalRows = (all.tables.map fun t => (single t).totalRows).sum ∧
      all.attachments.covered = (all.tables.map fun t => (single t).attachments.covered).sum ∧
      all.attachments.uncovered =
        (all.tables.map fun t => (single t).attachments.uncovered).sum ∧
      all.typeCounts.AddsUp all.tables (fun t => (single t).typeCounts) ∧
      all.monthlyCounts.AddsUp all.tables (fun t => (single t).monthlyCounts) := by
  intro e
  obtain ⟨base, hbase, -⟩ := Contents.exists_baseTables d config
  let partials := sortBy (fun p q => compareText p.table q.table) (e.summaries query base)
  have hmem : ∀ p, p ∈ partials ↔ p ∈ e.summaries query base := fun p => (sortBy_perm _ _).mem_iff
  have hsame : ∀ p ∈ partials, ∀ q ∈ partials, p.table = q.table → p = q := fun p hp q hq =>
    summaries_eq_of_table_eq ((hmem p).mp hp) ((hmem q).mp hq)
  let single (t : String) : Aggregate := (e.summarizeTable t query).toOption.getD default
  have hsingle : ∀ p ∈ partials, single p.table = mergeSummaries query [p] (.ofConfig config) := by
    intro p hp
    show (e.summarizeTable p.table query).toOption.getD default = _
    rw [summarizeTable_of_mem_summaries ((hmem p).mp hp)]
    rfl
  have hsum : ∀ (f : Aggregate → Nat) (g : TableSummary → Nat),
      (∀ p, f (mergeSummaries query [p] (.ofConfig config)) = g p) →
      (partials.map g).sum = ((partials.map (·.table)).map fun t => f (single t)).sum := by
    intro f g hfg
    rw [List.map_map]
    refine congrArg List.sum (List.map_congr_left fun p hp => ?_)
    rw [Function.comp_apply, hsingle p hp, hfg]
  refine ⟨base, mergeSummaries query (e.summaries query base) (.ofConfig config), single, hbase,
    Result.bind_eq_ok hbase rfl, fun t => ?_, fun t ht => ?_, ?_, ?_, ?_, ?_, ?_⟩
  · rw [exists_summarizeTable_iff]
    exact mem_tables_mergeSummaries_iff _
  · obtain ⟨p, hp, rfl⟩ := List.mem_map.mp ht
    rw [hsingle p hp]
    exact summarizeTable_of_mem_summaries ((hmem p).mp hp)
  · exact hsum (·.totalRows) (·.totalRows) fun p => Nat.add_zero _
  · rw [attachments_mergeSummaries]
    refine hsum (·.attachments.covered) (·.coverage.covered) fun p => ?_
    rw [attachments_mergeSummaries]
    exact Nat.add_zero _
  · rw [attachments_mergeSummaries]
    refine hsum (·.attachments.uncovered) (·.coverage.uncovered) fun p => ?_
    rw [attachments_mergeSummaries]
    exact Nat.add_zero _
  · exact addsUp_combine display_typeCountEntries .byTotal hsame fun p hp =>
      congrArg (·.typeCounts) (hsingle p hp)
  · exact addsUp_combine display_monthlyCountEntries .byKey hsame fun p hp =>
      congrArg (·.monthlyCounts) (hsingle p hp)

end Explorer

end TableExplorer
