import Mathlib
import TableExplorer.Explorer
import TableExplorer.Proofs.Dashboard.Exactness
import TableExplorer.Proofs.Sorting

/-!
The order in which the tables of a dashboard are finished.  A dashboard is put together from the
summaries in the order of their tables' names.  Summaries of different tables have one such order
only, and two summaries that an explorer makes for the same table are the same; so the dashboard
does not depend on which table is finished first.

* `sortBy_table_eq_of_perm`: **the order by table is canonical**.
* `TableSummary.table_of_compute`: a summary carries the name of its table.
* `Explorer.mem_tables_mergeSummaries_iff`: the tables of a dashboard are those that have a summary.
* `mergeSummaries_eq_of_perm`: **a dashboard does not depend on the order of its summaries**.
-/

namespace TableExplorer

instance : Std.TransCmp fun p q : TableSummary => compareText p.table q.table :=
  transCmp_on TableSummary.table

/-- **The order by table is canonical**, if summaries of the same table are the same. -/
lemma sortBy_table_eq_of_perm {partials finished : List TableSummary}
    (hperm : finished.Perm partials)
    (hsame : ∀ p ∈ partials, ∀ q ∈ partials, p.table = q.table → p = q) :
    sortBy (fun p q => compareText p.table q.table) finished =
      sortBy (fun p q => compareText p.table q.table) partials :=
  sortBy_eq_of_perm hperm fun p hp q hq heq => hsame p hp q hq (Std.LawfulEqCmp.eq_of_compare heq)

/-- The summaries are put together in the order of their tables. -/
lemma mergeSummaries_eq_of_sortBy_eq (query : String) (limits : MergeLimits)
    {partials finished : List TableSummary}
    (h : sortBy (fun p q => compareText p.table q.table) finished =
      sortBy (fun p q => compareText p.table q.table) partials) :
    mergeSummaries query finished limits = mergeSummaries query partials limits := by
  rw [mergeSummaries, h]
  rfl

/-- A summary carries the name of its table. -/
lemma TableSummary.table_of_compute {contents : Contents} {config : Config} {table query : String}
    {summary : TableSummary} (h : compute contents config table query = .ok summary) :
    summary.table = table := by
  cases contents with
  | dataset d =>
      obtain ⟨r⟩ := SummaryReading.exists_of_compute h
      exact r.summarised
  | unreadable => cases h

namespace Explorer

variable {e : Explorer} {query table : String} {tables : List String} {p q : TableSummary}

/-- The summaries of tables are those that are made for one of them. -/
lemma mem_summaries_iff :
    p ∈ e.summaries query tables ↔ ∃ table ∈ tables, e.tableSummary table query = .ok p := by
  rw [summaries, List.mem_filterMap]
  refine exists_congr fun table => and_congr_right fun _ => ?_
  cases e.tableSummary table query with
  | error err => simp [Except.toOption]
  | ok summary => simp [Except.toOption]

/-- Summaries that an explorer makes for the same table are the same. -/
lemma summaries_eq_of_table_eq (hp : p ∈ e.summaries query tables)
    (hq : q ∈ e.summaries query tables) (h : p.table = q.table) : p = q := by
  obtain ⟨a, -, ha⟩ := mem_summaries_iff.mp hp
  obtain ⟨b, -, hb⟩ := mem_summaries_iff.mp hq
  rw [TableSummary.table_of_compute ha, TableSummary.table_of_compute hb] at h
  rw [h] at ha
  exact Except.ok.inj (ha.symm.trans hb)

/-- A table has a dashboard of its own if and only if it has a summary. -/
lemma exists_summarizeTable_iff :
    (∃ aggregate, e.summarizeTable table query = .ok aggregate) ↔
      ∃ summary, e.tableSummary table query = .ok summary := by
  constructor
  · rintro ⟨aggregate, h⟩
    obtain ⟨summary, h, -⟩ := Result.bind_eq_ok_iff.mp h
    exact ⟨summary, h⟩
  · rintro ⟨summary, h⟩
    exact ⟨_, Result.bind_eq_ok h rfl⟩

/-- The tables of a dashboard are those that have a summary. -/
lemma mem_tables_mergeSummaries_iff (limits : MergeLimits) :
    table ∈ (mergeSummaries query (e.summaries query tables) limits).tables ↔
      table ∈ tables ∧ ∃ summary, e.tableSummary table query = .ok summary := by
  constructor
  · intro h
    obtain ⟨p, hp, rfl⟩ := List.mem_map.mp h
    obtain ⟨other, hother, hsummary⟩ := mem_summaries_iff.mp ((sortBy_perm _ _).mem_iff.mp hp)
    obtain rfl := TableSummary.table_of_compute hsummary
    exact ⟨hother, p, hsummary⟩
  · rintro ⟨htable, summary, h⟩
    have hmem := mem_summaries_iff.mpr ⟨table, htable, h⟩
    exact List.mem_map.mpr
      ⟨summary, (sortBy_perm _ _).mem_iff.mpr hmem, TableSummary.table_of_compute h⟩

end Explorer

/-- **A dashboard does not depend on the order of its summaries**, if their tables are different;
and so the dashboard of all base tables does not depend on the order in which they are finished. -/
theorem mergeSummaries_eq_of_perm :
    (∀ (query : String) (limits : MergeLimits) (partials finished : List TableSummary),
      (partials.map (·.table)).Nodup → finished.Perm partials →
        mergeSummaries query finished limits = mergeSummaries query partials limits) ∧
      ∀ (e : Explorer) (query : String) (tables finished : List String),
        e.baseTables = .ok tables → finished.Perm tables →
          e.summarizeAll query =
            .ok (mergeSummaries query (e.summaries query finished) (.ofConfig e.config)) := by
  constructor
  · intro query limits partials finished hnodup hperm
    refine mergeSummaries_eq_of_sortBy_eq query limits (sortBy_table_eq_of_perm hperm ?_)
    exact fun p hp q hq heq => List.inj_on_of_nodup_map hnodup hp hq heq
  · intro e query tables finished htables hperm
    have hsummaries : (e.summaries query finished).Perm (e.summaries query tables) :=
      hperm.filterMap _
    have hmerged : mergeSummaries query (e.summaries query finished) (.ofConfig e.config) =
        mergeSummaries query (e.summaries query tables) (.ofConfig e.config) :=
      mergeSummaries_eq_of_sortBy_eq query _ (sortBy_table_eq_of_perm hsummaries
        fun p hp q hq heq => Explorer.summaries_eq_of_table_eq hp hq heq)
    rw [hmerged]
    exact Result.bind_eq_ok htables rfl

/-- An explorer of two tables whose order of creation is not that of their names. -/
def twoTables : Explorer :=
  ⟨.dataset (.ofTables [.ofTexts "b" ["Tipo"] [["A"]], .ofTexts "a" ["Tipo"] [["A"], ["B"]]]), {}⟩

/-- Sums of two tables with a common label, and the tables of an explorer, in both orders. -/
theorem mergeSummaries_of_twoTables :
    let first : TableSummary := { table := "a", typeSums := [⟨"A", Binary64.ofInt 1⟩] }
    let second : TableSummary := { table := "b", typeSums := [⟨"A", Binary64.ofInt 2⟩] }
    mergeSummaries "" [second, first] ⟨10, 20⟩ = mergeSummaries "" [first, second] ⟨10, 20⟩ ∧
      twoTables.baseTables = .ok ["a", "b"] ∧
      twoTables.summarizeAll "" =
        .ok (mergeSummaries "" (twoTables.summaries "" ["b", "a"]) (.ofConfig {})) := by
  intro first second
  have htables : twoTables.baseTables = .ok ["a", "b"] := by rfl
  refine ⟨mergeSummaries_eq_of_perm.1 "" ⟨10, 20⟩ [first, second] [second, first] (by decide)
    (List.Perm.swap _ _ _), htables, ?_⟩
  exact mergeSummaries_eq_of_perm.2 twoTables "" ["a", "b"] ["b", "a"] htables
    (List.Perm.swap _ _ _)

end TableExplorer
