import Mathlib
import TableExplorer.Proofs.Dashboard.MergedAwardees

/-!
The labels on the axes of a dashboard.  Types and months are shown as their keys, which are
different; so what stands under a label of theirs is one total.  An awardee is shown as one of its
spellings, and spellings of different awardees are different; but the label of blank awardees may be
the name of an awardee as well, and then stands for both.

* `StackedSeries.NamesCategories`: **each label of a series names one category**;
  `namesCategories_align`: it does if the labels on the axis are different.
* `count_labels_le_one`: labels are different if no label shows two keys.
* `Explorer.labels_nameCategories`: **the labels of a dashboard** name one category each, except
  that of blank awardees where it is a name; `Explorer.labels_of_blankAndUnnamed`: there it names
  two.
-/

namespace TableExplorer

section

variable {α : Type} [Metric α]

/-! ### Labels and what they show -/

namespace StackedSeries

/-- The totals that stand under a label. -/
def shownUnder (s : StackedSeries α) (label : String) : List α :=
  ((s.labels.zip s.totals).filter fun entry => entry.1 == label).map (·.2)

/-- Each label names one category: the labels are different, and the total of a label is all that
stands under it. -/
structure NamesCategories (s : StackedSeries α) : Prop where
  nodup : s.labels.Nodup
  whole : ∀ label, s.shownUnder label = (s.totalOf? label).toList

end StackedSeries

omit [Metric α] in
/-- What stands under a label that stands once is found at its first place. -/
lemma filter_zip_eq {labels : List String} {totals : List α}
    (hlength : totals.length = labels.length) {label : String} (h : labels.count label ≤ 1) :
    ((labels.zip totals).filter fun entry => entry.1 == label).map (·.2) =
      ((labels.findIdx? fun l => l == label).bind fun i => totals[i]?).toList := by
  induction labels generalizing totals with
  | nil => rfl
  | cons l labels ih =>
      obtain ⟨t, totals, rfl⟩ := List.exists_cons_of_length_eq_add_one hlength
      have hrest : totals.length = labels.length := Nat.succ.inj hlength
      rw [List.zip_cons_cons, List.findIdx?_cons]
      by_cases hl : l = label
      · -- the label does not stand at any other place
        subst hl
        rw [List.count_cons_self, Nat.succ_le_succ_iff, Nat.le_zero, List.count_eq_zero] at h
        have hnone : (labels.zip totals).filter (fun entry => entry.1 == l) = [] := by
          refine List.filter_eq_nil_iff.mpr fun entry hentry heq => h ?_
          rw [← beq_iff_eq.mp heq]
          exact (List.of_mem_zip hentry).1
        have hpos : ((l, t).1 == l) = true := beq_self_eq_true l
        rw [List.filter_cons, if_pos hpos, hnone, if_pos (beq_self_eq_true l)]
        rfl
      · rw [List.count_cons_of_ne hl] at h
        rw [List.filter_cons_of_neg (by simpa using hl), if_neg (by simpa using hl), ih hrest h,
          Option.bind_map]
        rfl

/-- Stacks that are as long as the axis have totals that are as long. -/
lemma length_addStacks {n : Nat} {byTable : List (Stack α)}
    (h : ∀ stack ∈ byTable, stack.values.length = n) : (addStacks n byTable).length = n := by
  have hfold : ∀ (pieces : List (Stack α)) (totals : List α),
      (∀ stack ∈ pieces, stack.values.length = n) → totals.length = n →
      (pieces.foldl (fun totals stack => totals.zipWith (· + ·) stack.values) totals).length =
        n := by
    intro pieces
    induction pieces with
    | nil => exact fun totals _ htotals => htotals
    | cons stack pieces ih =>
        intro totals hpieces htotals
        obtain ⟨hstack, hrest⟩ := List.forall_mem_cons.mp hpieces
        refine ih _ hrest ?_
        rw [List.length_zipWith, htotals, hstack, Nat.min_self]
  exact hfold byTable _ h List.length_replicate

/-- There is a total for each label. -/
lemma length_totals_align {β : Type} (axis : List (SeriesEntry β))
    (contributions : List (Contribution α)) :
    (align axis contributions).totals.length = (align axis contributions).labels.length := by
  have hstacks : ∀ stack ∈ contributions.map fun c => c.stack (axis.map (·.key)),
      stack.values.length = axis.length := by
    intro stack hstack
    obtain ⟨c, -, rfl⟩ := List.mem_map.mp hstack
    rw [Contribution.stack, List.length_map, List.length_map]
  rw [align, List.length_map]
  exact length_addStacks hstacks

/-- What stands under a label that stands once on an axis is its total. -/
lemma shownUnder_align {β : Type} (axis : List (SeriesEntry β))
    (contributions : List (Contribution α)) {label : String}
    (h : (align axis contributions).labels.count label ≤ 1) :
    (align axis contributions).shownUnder label =
      ((align axis contributions).totalOf? label).toList :=
  filter_zip_eq (length_totals_align axis contributions) h

/-- **Each label names one category** if the labels on the axis are different. -/
lemma namesCategories_align {β : Type} {axis : List (SeriesEntry β)}
    (contributions : List (Contribution α)) (h : (axis.map (·.display)).Nodup) :
    (align axis contributions).NamesCategories where
  nodup := h
  whole label :=
    shownUnder_align axis contributions (List.nodup_iff_count_le_one.mp h label)

/-! ### Keys that are shown as they are -/

/-- Where entries are shown as their keys, so is the axis. -/
lemma map_display_rank (ranking : Ranking) (limit? : Option Nat)
    {entries : TableSummary → List (SeriesEntry α)} {partials : List TableSummary}
    (hdisplay : ∀ p, ∀ e ∈ entries p, e.display = e.key) :
    (rank ranking limit? (contributions entries partials)).map (·.display) =
      (rank ranking limit? (contributions entries partials)).map (·.key) := by
  refine List.map_congr_left fun e he => ?_
  have hmem := mem_totalsByKey_of_mem_rank he
  rw [flatMap_contributions] at hmem
  have hkey := mem_keys_totalsByKey.mp (List.mem_map_of_mem hmem)
  refine (display_of_mem_totalsByKey hmem).trans (displayOf_eq_key (fun first hfirst => ?_) hkey)
  obtain ⟨p, -, hfirst⟩ := List.mem_flatMap.mp hfirst
  exact hdisplay p first hfirst

/-- The labels of keys that are shown as they are name one category each. -/
lemma namesCategories_of_display_eq_key {β : Type} [Metric β] (ranking : Ranking)
    {entries : TableSummary → List (SeriesEntry α)} {partials : List TableSummary}
    (hdisplay : ∀ p, ∀ e ∈ entries p, e.display = e.key) (others : List (Contribution β)) :
    (align (rank ranking none (contributions entries partials)) others).NamesCategories := by
  refine namesCategories_align others ?_
  rw [map_display_rank ranking none hdisplay]
  exact nodup_keys_rank ranking none _

end

/-- The sums of types are shown under the types. -/
lemma display_typeSumEntries (p : TableSummary) : ∀ e ∈ p.typeSumEntries, e.display = e.key := by
  intro e he
  obtain ⟨c, -, rfl⟩ := List.mem_map.mp he
  rfl

/-! ### Awardees -/

/-- A label that shows one key at most stands once at most. -/
lemma count_labels_le_one {shows : String → String → Prop} {labels keys : List String}
    (hshows : List.Forall₂ shows labels keys) (hkeys : keys.Nodup) {label : String}
    (hone : ∀ k k', shows label k → shows label k' → k = k') : labels.count label ≤ 1 := by
  induction hshows with
  | nil => exact Nat.zero_le 1
  | @cons l k labels keys hl hrest ih =>
      obtain ⟨hk, hkeys⟩ := List.nodup_cons.mp hkeys
      rw [List.count_cons]
      split
      · rename_i heq
        rw [beq_iff_eq] at heq
        subst heq
        have hnone : l ∉ labels := by
          intro hmem
          obtain ⟨i, hi, hget⟩ := List.getElem_of_mem hmem
          have hi' : i < keys.length := hrest.length_eq ▸ hi
          have hshown := hrest.get hi hi'
          rw [List.get_eq_getElem, List.get_eq_getElem, hget] at hshown
          exact hk (hone _ _ hl hshown ▸ List.getElem_mem hi')
        rw [List.count_eq_zero_of_not_mem hnone]
      · exact ih hkeys

/-- The label of blank awardees is that of another one, too. -/
def Config.MistakesBlank (config : Config) (names : List String) : Prop :=
  "" ∈ names ∧ config.blankAwardeeLabel ∈ names ∧ Text.fold config.blankAwardeeLabel ≠ ""

namespace Config

variable {config : Config} {names : List String}

/-- A label other than that of blank awardees is the name that it shows. -/
lemma eq_of_awardeeLabel_ne {name label : String} (h : label = config.awardeeLabel name)
    (hlabel : label ≠ config.blankAwardeeLabel) : label = name := by
  rw [awardeeLabel] at h
  split at h
  · exact absurd h hlabel
  · exact h

/-- A name that is shown as blank awardees are is blank, or their label. -/
lemma eq_or_of_awardeeLabel_eq {name : String}
    (h : config.awardeeLabel name = config.blankAwardeeLabel) :
    name = "" ∨ name = config.blankAwardeeLabel := by
  rw [awardeeLabel] at h
  split at h
  · rename_i hempty
    exact .inl (String.isEmpty_iff.mp hempty)
  · exact .inr h

/-- Names with one label fold to one key, but for the label of blank awardees. -/
lemma fold_eq_of_awardeeLabel_eq {name name' : String}
    (h : config.awardeeLabel name = config.awardeeLabel name')
    (hlabel : config.awardeeLabel name ≠ config.blankAwardeeLabel) :
    Text.fold name = Text.fold name' := by
  have hname := eq_of_awardeeLabel_ne rfl hlabel
  have hname' := eq_of_awardeeLabel_ne h hlabel
  rw [← hname, hname']

/-- Names with one label fold to one key, if the label of blank awardees is no other one's. -/
lemma fold_eq_of_not_mistakesBlank (hclear : ¬ config.MistakesBlank names) {name name' : String}
    (hname : name ∈ names) (hname' : name' ∈ names)
    (h : config.awardeeLabel name = config.awardeeLabel name') :
    Text.fold name = Text.fold name' := by
  by_cases hlabel : config.awardeeLabel name = config.blankAwardeeLabel
  · have hfold : Text.fold "" = "" := by decide +kernel
    have hmeets : "" ∈ names → config.blankAwardeeLabel ∈ names →
        Text.fold config.blankAwardeeLabel = Text.fold "" := by
      intro hblank hother
      by_contra hne
      exact hclear ⟨hblank, hother, hfold ▸ hne⟩
    rcases eq_or_of_awardeeLabel_eq hlabel with rfl | rfl <;>
      rcases eq_or_of_awardeeLabel_eq (h.symm.trans hlabel) with rfl | rfl
    · rfl
    · exact (hmeets hname hname').symm
    · exact hmeets hname' hname
    · rfl
  · exact fold_eq_of_awardeeLabel_eq h hlabel

end Config

/-! ### The dashboard -/

/-- The labels of a dashboard name one category each, but for the label of blank awardees if it is
another one's among the names. -/
structure Aggregate.NamesCategories (all : Aggregate) (config : Config) (names : List String) :
    Prop where
  typeCounts : all.typeCounts.NamesCategories
  typeSums : all.typeSums.NamesCategories
  monthlyCounts : all.monthlyCounts.NamesCategories
  monthlySums : all.monthlySums.NamesCategories
  awardees : ∀ label, label ≠ config.blankAwardeeLabel → all.awardees.labels.count label ≤ 1 ∧
    all.awardees.shownUnder label = (all.awardees.totalOf? label).toList
  clear : ¬ config.MistakesBlank names → all.awardees.NamesCategories

/-- **The labels of merged summaries** name one category each. -/
lemma namesCategories_mergeSummaries {d : Dataset} {config : Config} {query : String}
    {summaries : List TableSummary}
    (hmade : ∀ p ∈ summaries, TableSummary.compute (.dataset d) config p.table query = .ok p) :
    let all := mergeSummaries query summaries (.ofConfig config)
    all.NamesCategories config (all.tables.flatMap (d.awardeeNames config query)) := by
  intro all
  let partials := sortBy (fun p q => compareText p.table q.table) summaries
  have hmade' : ∀ p ∈ partials, TableSummary.compute (.dataset d) config p.table query = .ok p :=
    fun p hp => hmade p ((sortBy_perm _ _).mem_iff.mp hp)
  have hlabels := forall₂_labels_awardees hmade' .byTotal (some config.awardeesGlobal)
  have hkeys := nodup_keys_rank .byTotal (some config.awardeesGlobal)
    (contributions TableSummary.awardeeEntries partials)
  have hcount : ∀ label, label ≠ config.blankAwardeeLabel →
      all.awardees.labels.count label ≤ 1 := by
    intro label hlabel
    refine count_labels_le_one hlabels hkeys ?_
    rintro k k' ⟨name, -, rfl, rfl⟩ ⟨name', -, rfl, hsame⟩
    exact Config.fold_eq_of_awardeeLabel_eq hsame hlabel
  refine ⟨namesCategories_of_display_eq_key .byTotal display_typeCountEntries _,
    namesCategories_of_display_eq_key .byTotal display_typeSumEntries _,
    namesCategories_of_display_eq_key .byKey display_monthlyCountEntries _,
    namesCategories_of_display_eq_key .byKey display_monthlyCountEntries _,
    fun label hlabel => ⟨hcount label hlabel, shownUnder_align _ _ (hcount label hlabel)⟩,
    fun hclear => namesCategories_align _ (List.nodup_iff_count_le_one.mpr fun label => ?_)⟩
  refine count_labels_le_one hlabels hkeys ?_
  rintro k k' ⟨name, hname, rfl, rfl⟩ ⟨name', hname', rfl, hsame⟩
  exact Config.fold_eq_of_not_mistakesBlank hclear hname hname' hsame

namespace Explorer

/-- **The labels of a dashboard.**  A dataset has a dashboard; its labels of types, sums and months
are different, and what stands under one of them is its total, and so for the dashboard of a single
table.  The labels of awardees are different unless one of them is that of blank awardees, and there
is an awardee of that name among those that the search finds besides blank ones. -/
theorem labels_nameCategories (d : Dataset) (config : Config) (query : String) :
    let e : Explorer := ⟨.dataset d, config⟩
    (∃ all, e.summarizeAll query = .ok all ∧
      all.NamesCategories config (all.tables.flatMap (d.awardeeNames config query))) ∧
    ∀ table single, e.summarizeTable table query = .ok single →
      single.NamesCategories config (d.awardeeNames config query table) := by
  intro e
  constructor
  · obtain ⟨base, hbase, -⟩ := Contents.exists_baseTables d config
    exact ⟨_, Result.bind_eq_ok hbase rfl,
      namesCategories_mergeSummaries fun p hp => compute_of_mem_summaries hp⟩
  · intro table single hsingle
    obtain ⟨p, hp, hsingle⟩ := Result.bind_eq_ok_iff.mp hsingle
    obtain rfl := Except.ok.inj hsingle
    have htable : p.table = table := TableSummary.table_of_compute hp
    subst htable
    have hmade : ∀ q ∈ [p], TableSummary.compute (.dataset d) config q.table query = .ok q :=
      fun q hq => (List.mem_singleton.mp hq).symm ▸ hp
    have hnames := namesCategories_mergeSummaries hmade
    have hone : (mergeSummaries query [p] (.ofConfig config)).tables = [p.table] := rfl
    dsimp only at hnames
    rw [hone, List.flatMap_singleton] at hnames
    exact hnames

/-- No awardee of two tables is called as blank ones are shown: each label names one. -/
theorem labels_of_severalSpellings :
    let e : Explorer := ⟨.dataset (.ofTables [severalSpellings, oneSpelling]), {}⟩
    ∃ all single, e.summarizeAll "" = .ok all ∧ e.summarizeTable "b" "" = .ok single ∧
      all.awardees.NamesCategories ∧ all.awardees.labels = ["acme", "(unnamed)", "Beta"] ∧
      single.awardees.NamesCategories ∧ single.awardees.labels = ["ACME", "(unnamed)", "Beta"] := by
  intro e
  let d : Dataset := .ofTables [severalSpellings, oneSpelling]
  obtain ⟨⟨all, hall, hnames⟩, hsingles⟩ := labels_nameCategories d {} ""
  have hseries : (e.summarizeAll "").map (fun all => (all.tables, all.awardees.labels)) =
      .ok (["a", "b"], ["acme", "(unnamed)", "Beta"]) := by decide +kernel
  have hlabels : (e.summarizeTable "b" "").map (fun single => single.awardees.labels) =
      .ok ["ACME", "(unnamed)", "Beta"] := by decide +kernel
  rw [hall] at hseries
  obtain ⟨htables, hshown⟩ : all.tables = ["a", "b"] ∧
      all.awardees.labels = ["acme", "(unnamed)", "Beta"] := by
    simpa [Except.map] using hseries
  obtain ⟨single, hsingle, hlabels⟩ := Result.map_eq_ok_iff.mp hlabels
  have hclear : "(unnamed)" ∉ ["a", "b"].flatMap (d.awardeeNames {} "") := by decide +kernel
  have hclear' : "(unnamed)" ∉ d.awardeeNames {} "" "b" := by decide +kernel
  rw [htables] at hnames
  exact ⟨all, single, hall, hsingle, hnames.clear fun h => hclear h.2.1, hshown,
    (hsingles "b" single hsingle).clear fun h => hclear' h.2.1, hlabels⟩

/-- A blank awardee and one that is called as blank ones are shown. -/
def blankAndUnnamed : Table := .ofTexts "t" ["Adxudicatario"] [[""], ["(unnamed)"]]

/-- The blank awardee and its namesake are two categories with one label: the total of the label is
half of what stands under it. -/
theorem labels_of_blankAndUnnamed :
    ∃ all, summarizeAll ⟨.dataset (.ofTables [blankAndUnnamed]), {}⟩ "" = .ok all ∧
      ¬ all.awardees.labels.Nodup ∧ all.awardees.totalOf? "(unnamed)" = some 1 ∧
      all.awardees.shownUnder "(unnamed)" = [1, 1] := by
  have hseries : (summarizeAll ⟨.dataset (.ofTables [blankAndUnnamed]), {}⟩ "").map (·.awardees) =
      .ok ⟨["(unnamed)", "(unnamed)"], [1, 1], [⟨"t", [1, 1]⟩]⟩ := by decide +kernel
  obtain ⟨all, hall, hawardees⟩ := Result.map_eq_ok_iff.mp hseries
  refine ⟨all, hall, ?_⟩
  rw [hawardees]
  decide

end Explorer

end TableExplorer
