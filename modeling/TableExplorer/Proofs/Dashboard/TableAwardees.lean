import TableExplorer.Proofs.Dashboard.AwardeeCounts
import TableExplorer.Proofs.Dashboard.Exactness
import TableExplorer.Proofs.View.WideTables

/-!
The awardees of one table.  A summary counts the names of the records that are found by their folded
forms, puts the counts in order, and keeps the first of them.

* `IsAwardeeRanking`: what it is to rank names and to cut the ranking off;
  `IsAwardeeTally.isAwardeeRanking_take`: a tally in order is ranked, wherever it is cut off.
* `Selection.exists_awardees_of_perm`: **in whatever order the records are read**, the awardees have
  the same keys and counts.
* `TableSummary.compute_awardees`: **the awardees of a summary**.
-/

namespace TableExplorer

/-! ### Rankings that are cut off -/

/-- The counts are the first of a ranking of some names: as many as there are different folded
names, up to a limit.  Each counts the names that fold to its key and is shown as the first of them;
the counts are in order, and no folded name that is left out occurs more often than one that is not;
and all names are counted if none has to be left out. -/
structure IsAwardeeRanking (config : Config) (limit : Nat) (entries : List AwardeeCount)
    (names : List String) : Prop where
  nodup : (entries.map (·.key)).Nodup
  length : entries.length = min limit (names.map Text.fold).dedup.length
  sorted : entries.Pairwise AwardeeCount.Precedes
  cut : ∀ dropped ∈ names.map Text.fold, dropped ∉ entries.map (·.key) → ∀ kept ∈ entries,
    (names.map Text.fold).count dropped ≤ kept.count
  count : ∀ e ∈ entries, e.count = names.countP fun name => Text.fold name == e.key
  total : (names.map Text.fold).dedup.length ≤ limit →
    (entries.map (·.count)).sum = names.length
  display : ∀ e ∈ entries, ∃ name, names.find? (fun other => e.key == Text.fold other) =
    some name ∧ e.display = config.awardeeLabel name
  folds : ∀ e ∈ entries, e.key ≠ "" → Text.fold e.display = e.key

namespace IsAwardeeTally

variable {config : Config} {ranking : List AwardeeCount} {names : List String}

/-- A tally counts every name once. -/
lemma sum_counts (h : IsAwardeeTally config ranking names) :
    (ranking.map (·.count)).sum = names.length := by
  calc (ranking.map (·.count)).sum
      = ((ranking.map (·.key)).map (names.map Text.fold).count).sum := by
        rw [List.map_map]
        exact congrArg List.sum (List.map_congr_left h.count)
    _ = ((names.map Text.fold).dedup.map (names.map Text.fold).count).sum :=
        (h.keys_perm.map _).sum_eq
    _ = names.length := by rw [List.sum_map_count_dedup_eq_length, List.length_map]

/-- An awardee whose key is not empty is shown as a name that folds to it. -/
lemma fold_display (h : IsAwardeeTally config ranking names) {e : AwardeeCount} (he : e ∈ ranking)
    (hkey : e.key ≠ "") : Text.fold e.display = e.key := by
  obtain ⟨name, hname, hdisplay⟩ := h.display e he
  have hfound := List.find?_some hname
  have hfold : e.key = Text.fold name := beq_iff_eq.mp hfound
  have hblank : Text.fold "" = "" := by decide +kernel
  have hne : ¬name.isEmpty = true := by
    rw [String.isEmpty_iff]
    intro hempty
    rw [hempty] at hfold
    exact hkey (hfold.trans hblank)
  rw [hdisplay, Config.awardeeLabel, if_neg hne, hfold]

/-- **A tally in order is ranked**, wherever it is cut off. -/
lemma isAwardeeRanking_take (h : IsAwardeeTally config ranking names)
    (hsorted : ranking.Pairwise AwardeeCount.Precedes) (limit : Nat) :
    IsAwardeeRanking config limit (ranking.take limit) names where
  nodup := ((List.take_sublist limit ranking).map _).nodup h.nodup
  length := by rw [List.length_take, h.length_eq]
  sorted := hsorted.sublist (List.take_sublist limit ranking)
  cut dropped hoccurs hdropped kept hkept := by
    obtain ⟨d, hd, rfl⟩ := List.mem_map.mp ((h.occurs dropped).mpr hoccurs)
    rw [← h.count d hd]
    rw [← List.take_append_drop limit ranking] at hd hsorted
    -- what is left out stands behind the cut, and so behind all that is kept
    rcases List.mem_append.mp hd with htake | hdrop
    · exact absurd (List.mem_map_of_mem htake) hdropped
    · rcases (List.pairwise_append.mp hsorted).2.2 kept hkept d hdrop with hlt | ⟨heq, -⟩
      · exact hlt.le
      · exact heq.le
  count e he := by
    rw [h.count e (List.mem_of_mem_take he), List.count, List.countP_map]
    rfl
  total hlimit := by
    rw [← h.length_eq] at hlimit
    rw [List.take_of_length_le hlimit, h.sum_counts]
  display e he := h.display e (List.mem_of_mem_take he)
  folds e he := h.fold_display (List.mem_of_mem_take he)

end IsAwardeeTally

/-- **The awardees that a table keeps** are the first of a ranking of its records' names. -/
lemma Selection.isAwardeeRanking {s : Selection} {config : Config} {column : Identifier}
    {awardees : List AwardeeCount} (h : s.awardees config column = .ok awardees) :
    IsAwardeeRanking config config.awardeesPerTable awardees
      (s.relation.awardeeNames column.name s.records) := by
  obtain ⟨ranking, htally, hsorted, rfl⟩ := exists_ranking h
  exact htally.isAwardeeRanking_take hsorted config.awardeesPerTable

/-- **In whatever order the records are read**, the awardees have the same keys and counts. -/
lemma Selection.exists_awardees_of_perm {s t : Selection} {config : Config} {column : Identifier}
    {awardees : List AwardeeCount} (h : s.awardees config column = .ok awardees)
    (hrel : t.relation = s.relation) (hrecords : t.records.Perm s.records) :
    ∃ awardees', t.awardees config column = .ok awardees' ∧
      awardees'.map (fun e => (e.key, e.count)) = awardees.map fun e => (e.key, e.count) := by
  have hlegible := exists_awardees_iff.mp ⟨awardees, h⟩
  obtain ⟨awardees', h'⟩ : ∃ awardees', t.awardees config column = .ok awardees' := by
    refine exists_awardees_iff.mpr fun record hrecord => ?_
    rw [trimmed?, hrel]
    exact hlegible record (hrecords.mem_iff.mp hrecord)
  obtain ⟨ranking, htally, hsorted, rfl⟩ := exists_ranking h
  obtain ⟨ranking', htally', hsorted', rfl⟩ := exists_ranking h'
  refine ⟨_, h', ?_⟩
  rw [hrel] at htally'
  rw [List.map_take, List.map_take,
    htally'.numbers_eq_of_perm htally (hrecords.map _) hsorted' hsorted]

/-! ### The summary -/

namespace TableSummary

/-- **The awardees of a summary.**  The summary of a table that can be summarised is made.  Whenever
it is made, its awardees are the first of a ranking of the names in the awardee column of the
records that are found, in the order in which these are read; each record has one name, which is
empty where there is no text.  If they were read in another order, there would be the same awardees
with the same counts, but each shown as the first spelling in that order. -/
theorem compute_awardees {d : Dataset} {config : Config} {table query column : String}
    {rel : Relation} {search : Search} (hfound : d.relation? table = some rel)
    (hsearch : Search.ofQuery (columnNames rel.columns) query = .ok search)
    (hcolumn : (TableRoles.resolve config table (columnNames rel.columns)).awardee? =
      some column) :
    let matching := rel.records.filter (search.finds rel)
    (Summarizable d config table query rel →
      ∃ summary, compute (.dataset d) config table query = .ok summary) ∧
    ∀ summary, compute (.dataset d) config table query = .ok summary →
      summary.totalRows = matching.length ∧
      IsAwardeeRanking config config.awardeesPerTable summary.awardees
        (matching.map fun record => (rel.cell column record).awardee) ∧
      ∀ (s : Selection) (id : Identifier), s.relation = rel → s.records.Perm matching →
        id.name = column → ∃ awardees, s.awardees config id = .ok awardees ∧
          IsAwardeeRanking config config.awardeesPerTable awardees
            (s.records.map fun record => (rel.cell column record).awardee) ∧
          awardees.map (fun e => (e.key, e.count)) =
            summary.awardees.map fun e => (e.key, e.count) := by
  intro matching
  refine ⟨exists_compute, fun summary hsummary => ?_⟩
  obtain ⟨r⟩ := SummaryReading.exists_of_compute hsummary
  obtain ⟨hrel, hrecords, hroles⟩ := r.selection_eq hfound hsearch
  have hawardees := r.awardees
  rw [hroles, hcolumn, withColumn_some_eq_ok_iff] at hawardees
  obtain ⟨⟨name, hvalid⟩, rfl, hkept⟩ := hawardees
  have hranking := Selection.isAwardeeRanking hkept
  rw [hrel, hrecords] at hranking
  rw [r.totalRows, hrecords]
  refine ⟨rfl, hranking, ?_⟩
  rintro s ⟨_, _⟩ rfl hperm rfl
  obtain ⟨awardees, hmade, hnumbers⟩ :=
    Selection.exists_awardees_of_perm (t := s) hkept hrel.symm (hrecords ▸ hperm)
  exact ⟨awardees, hmade, Selection.isAwardeeRanking hmade, hnumbers⟩

/-- Names in several spellings, and a blank one. -/
def spelledNames : Table :=
  .ofTexts "t" ["Adxudicatario"] [["Beta"], [" Café "], ["CAFE"], [""], ["beta"], ["cafe"]]

/-- Names are counted by their folded forms and shown as the first of their spellings; of three
awardees the two most frequent are kept. -/
theorem awardees_of_spelledNames :
    let config : Config := { awardeesPerTable := 2 }
    Dataset.relation? (.ofTables [spelledNames]) "t" = some spelledNames.relation ∧
      Search.ofQuery (columnNames spelledNames.columns) "" = .ok .all ∧
      (TableRoles.resolve config "t" (columnNames spelledNames.columns)).awardee? =
        some "Adxudicatario" ∧
      Summarizable (.ofTables [spelledNames]) config "t" "" spelledNames.relation ∧
      ∃ summary, compute (.dataset (.ofTables [spelledNames])) config "t" "" = .ok summary ∧
        summary.awardees = [⟨"cafe", "Café", 3⟩, ⟨"beta", "Beta", 2⟩] ∧
        IsAwardeeRanking config 2 summary.awardees
          ["Beta", "Café", "CAFE", "", "beta", "cafe"] := by
  intro config
  have hfound : Dataset.relation? (.ofTables [spelledNames]) "t" = some spelledNames.relation := by
    rfl
  have hsearch : Search.ofQuery (columnNames spelledNames.columns) "" = .ok .all := by rfl
  have hcolumn : (TableRoles.resolve config "t" (columnNames spelledNames.columns)).awardee? =
      some "Adxudicatario" := by decide +kernel
  have hsummarizable : Summarizable (.ofTables [spelledNames]) config "t" ""
      spelledNames.relation := by
    refine { served := ?_, texts := ?_, tables := ?_, topRecords_lt := ?_ }
    · exact
        { table_valid := by decide +kernel
          found := hfound
          columns_valid := by decide +kernel
          columns_ne_nil := by decide +kernel
          query_valid := by decide +kernel
          sort_known := fun column hsort => nomatch hsort
          searchable := ⟨rfl, .inl (by decide +kernel)⟩ }
    · decide +kernel
    · decide +kernel
    · decide +kernel
  obtain ⟨hmade, hranked⟩ := compute_awardees hfound hsearch hcolumn
  obtain ⟨summary, hsummary⟩ := hmade hsummarizable
  obtain ⟨-, hranking, -⟩ := hranked summary hsummary
  have hkept : (compute (.dataset (.ofTables [spelledNames])) config "t" "").map (·.awardees) =
      .ok [⟨"cafe", "Café", 3⟩, ⟨"beta", "Beta", 2⟩] := by decide +kernel
  rw [hsummary] at hkept
  have hnames : ((spelledNames.records.filter (Search.all.finds spelledNames.relation)).map
      fun record => (spelledNames.relation.cell "Adxudicatario" record).awardee) =
        ["Beta", "Café", "CAFE", "", "beta", "cafe"] := by decide +kernel
  rw [← hnames]
  exact ⟨hfound, hsearch, hcolumn, hsummarizable, summary, hsummary, Except.ok.inj hkept, hranking⟩

/-- **A table that is too wide** has awardees, but no summary for a text, though a record would be
found. -/
theorem awardees_of_wideTable :
    wideDataset.relation? "t" = some wideTable.relation ∧
      (TableRoles.resolve {} "t" (columnNames wideTable.relation.columns)).awardee? =
        some "Adxudicatario" ∧
      wideTable.relation.records ≠ [] ∧
      (∃ search, Search.ofQuery (columnNames wideTable.relation.columns) "x" = .ok search ∧
        wideTable.relation.records.filter (search.finds wideTable.relation) =
          wideTable.relation.records) ∧
      compute (.dataset wideDataset) {} "t" "x" =
        .error (.query "Expression tree is too large (maximum depth 1000)") := by
  have hchecked : TableRequest.Checked { table := "t", query := "x" } wideDataset
      wideTable.relation := checked_wideTable (by decide +kernel)
  obtain ⟨record, hrecord, -⟩ := exists_record_wideTable
  obtain ⟨search, hsearch, hall⟩ := exists_finds_wideTable
  refine ⟨relation?_wideTable, by decide +kernel, ?_, ⟨search, hsearch, hall⟩, ?_⟩
  · exact hrecord ▸ List.cons_ne_nil _ _
  · refine compute_eq_error hchecked hsearch ?_ {}
    rw [Search.checkDepth_of_wide hsearch (by decide +kernel)
      (by rw [columnNames, List.length_map]; exact maxColumns_lt_wideColumns)]
    rfl

end TableSummary

end TableExplorer
