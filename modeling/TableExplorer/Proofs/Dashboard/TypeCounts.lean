import Mathlib
import TableExplorer.Dashboard.RecordTypes
import TableExplorer.Dashboard.Series
import TableExplorer.Proofs.Dashboard.Groups

/-!
Counts by record type.  A statement counts the records of each group, and the groups under one label
become one; whatever the groups, no label is counted twice and no record is lost.  If the records
of each group have one label, every label gets the number of its records.

* `Cell.typeLabel`: the label of a record's type.
* `TypeTotal.sum_counts_combine`, `TypeTotal.count_of_mem_combine`: **totals under one label become
  one total**.
* `IsRanking`, `IsTally`: the largest count first, and each label with the number of its
  occurrences.
* `TypeTotal.isRanking_counts`, `TypeTotal.isTally_totals`: **the counts by type**.
-/

namespace TableExplorer

/-- The label of a type: its text without the spaces around it; blank types share one label. -/
def Cell.typeLabel (config : Config) (cell : Cell) : String :=
  let text := match cell.trimmedText? with
    | some bytes => Text.Utf8.decode bytes
    | none => ""
  if text.isEmpty then config.blankTypeLabel else text

/-! ### Tallies -/

/-- Counts under different labels, the largest first, and equal ones by their labels. -/
structure IsRanking (entries : List LabeledCount) : Prop where
  nodup : (entries.map (·.label)).Nodup
  ranked : entries.Pairwise fun a b =>
    b.count < a.count ∨ b.count = a.count ∧ a.label < b.label

/-- The counts are those of some labels: each label that occurs has one, and it is the number of its
occurrences. -/
structure IsTally (entries : List LabeledCount) (labels : List String) : Prop where
  occurs : ∀ label, label ∈ entries.map (·.label) ↔ label ∈ labels
  count : ∀ entry ∈ entries, entry.count = labels.count entry.label

/-- The order of the counts does not matter to a tally. -/
lemma IsTally.perm {entries entries' : List LabeledCount} {labels : List String}
    (h : IsTally entries labels) (hperm : entries'.Perm entries) : IsTally entries' labels :=
  ⟨fun label => (hperm.map _).mem_iff.trans (h.occurs label),
    fun entry hentry => h.count entry (hperm.mem_iff.mp hentry)⟩

namespace TypeTotal

/-! ### One total for each label -/

/-- Two totals have one label. -/
private def sameLabel (a b : TypeTotal) : Bool := a.label == b.label

/-- Totals that have the label of a third have one label. -/
private lemma sameLabel_trans (a b c : TypeTotal) (hab : sameLabel a b = true)
    (hbc : sameLabel b c = true) : sameLabel a c = true :=
  beq_iff_eq.mpr ((beq_iff_eq.mp hab).trans (beq_iff_eq.mp hbc))

/-- The labels of the combined totals. -/
lemma map_label_combine (totals : List TypeTotal) :
    (combine totals).map (·.label) =
      (representatives (fun a b => a.label == b.label) totals).map (·.label) := by
  rw [combine, List.map_map]
  rfl

/-- No label has two totals. -/
lemma nodup_combine (totals : List TypeTotal) : ((combine totals).map (·.label)).Nodup := by
  rw [map_label_combine, List.Nodup, List.pairwise_map]
  exact (representatives_pairwise _ totals).imp fun h => by simpa using h

/-- Each label has a total. -/
lemma mem_combine_iff {totals : List TypeTotal} {label : String} :
    label ∈ (combine totals).map (·.label) ↔ label ∈ totals.map (·.label) := by
  rw [map_label_combine]
  constructor
  · intro h
    exact ((representatives_sublist _ totals).map _).mem h
  · intro h
    obtain ⟨t, ht, rfl⟩ := List.mem_map.mp h
    obtain ⟨r, hr, hsame⟩ :=
      exists_representative (fun t => beq_self_eq_true t.label) sameLabel_trans ht
    exact List.mem_map.mpr ⟨r, hr, beq_iff_eq.mp hsame⟩

/-- Counts are added up from any number. -/
lemma foldl_count (totals : List TypeTotal) (n : Nat) :
    totals.foldl (fun sum t => sum + t.count) n = n + (totals.map (·.count)).sum := by
  induction totals generalizing n with
  | nil => rfl
  | cons t rest ih => rw [List.foldl_cons, ih, List.map_cons, List.sum_cons, Nat.add_assoc]

/-- The combined count of a label is the sum of its counts. -/
lemma count_of_mem_combine {totals : List TypeTotal} {t : TypeTotal} (h : t ∈ combine totals) :
    t.count = ((totals.filter fun u => t.label == u.label).map (·.count)).sum := by
  obtain ⟨first, -, rfl⟩ := List.mem_map.mp h
  have hfold := foldl_count (totals.filter fun u => first.label == u.label) 0
  rw [Nat.zero_add] at hfold
  exact hfold

/-- Nothing is lost when totals are combined. -/
lemma sum_counts_combine (totals : List TypeTotal) :
    ((combine totals).map (·.count)).sum = (totals.map (·.count)).sum := by
  have hsymm : ∀ a b, sameLabel a b = true → sameLabel b a = true := fun a b h =>
    beq_iff_eq.mpr (beq_iff_eq.mp h).symm
  have hperm : ((representatives sameLabel totals).flatMap fun first =>
      totals.filter (sameLabel first)).Perm totals :=
    flatMap_filter_perm hsymm sameLabel_trans (representatives_pairwise sameLabel totals)
      fun t ht => exists_representative (fun t => beq_self_eq_true t.label) sameLabel_trans ht
  rw [← (hperm.map _).sum_eq, List.map_flatMap, List.flatMap_def, List.sum_flatten, combine,
    List.map_map, List.map_map]
  refine congrArg List.sum (List.map_congr_left fun first _ => ?_)
  have hfold := foldl_count (totals.filter (sameLabel first)) 0
  rw [Nat.zero_add] at hfold
  exact hfold

/-! ### The totals of the groups -/

/-- The label that is read for a record is that of its cell. -/
lemma labelOf_eq {s : Selection} {config : Config} {column : Identifier} {record : Record}
    {label : String} (h : labelOf config (s.trimmed? column record) = .ok label) :
    label = (s.relation.cell column.name record).typeLabel config := by
  obtain ⟨text, htext, h⟩ := Result.bind_eq_ok_iff.mp h
  have hdecode := decode_of_shownText htext
  rw [Selection.trimmed?] at hdecode
  rw [← Except.ok.inj h, Cell.typeLabel]
  cases htrimmed : (s.relation.cell column.name record).trimmedText? with
  | some bytes =>
      rw [htrimmed, Option.getD_some] at hdecode
      subst hdecode
      rfl
  | none =>
      rw [htrimmed, Option.getD_none] at hdecode
      have hempty : text = "" := by
        rw [← hdecode]
        decide +kernel
      subst hempty
      rfl

/-- The total of a group has the label of its first record, and counts its records. -/
lemma ofGroup_eq {s : Selection} {config : Config} {column : Identifier}
    {group : Record × List Record} {t : TypeTotal} (h : ofGroup s config column group = .ok t) :
    t.label = (s.relation.cell column.name group.1).typeLabel config ∧
      t.count = group.2.length := by
  obtain ⟨label, hlabel, h⟩ := Result.bind_eq_ok_iff.mp h
  rw [← Except.ok.inj h]
  exact ⟨labelOf_eq hlabel, rfl⟩

/-- The types of records as a statement groups them. -/
def groupsOf (s : Selection) (column : Identifier) : List (Record × List Record) :=
  groupRecords s.relation typeName (fun record => textCell (s.trimmed? column record)) s.records

section

variable {s : Selection} {config : Config} {column : Identifier} {totals : List TypeTotal}

/-- The totals of a selection are those of its groups, combined. -/
lemma ofSelection_eq_ok_iff : ofSelection s config column = .ok totals ↔
    ∃ parts, List.Forall₂ (fun group t => ofGroup s config column group = .ok t)
      (groupsOf s column) parts ∧ totals = combine parts := by
  rw [ofSelection, Result.bind_eq_ok_iff]
  refine exists_congr fun parts => and_congr Result.mapM_eq_ok_iff ?_
  exact ⟨fun h => (Except.ok.inj h).symm, fun h => h ▸ rfl⟩

/-- The totals of groups under a label count the records of the groups whose first record has it. -/
lemma sum_counts_filter {groups : List (Record × List Record)} {parts : List TypeTotal}
    (h : List.Forall₂ (fun group t => ofGroup s config column group = .ok t) groups parts)
    (p : String → Bool) :
    ((parts.filter fun t => p t.label).map (·.count)).sum =
      ((groups.filter fun group =>
        p ((s.relation.cell column.name group.1).typeLabel config)).map
          fun group => group.2.length).sum := by
  induction h with
  | nil => rfl
  | cons hgroup _ ih =>
      obtain ⟨hlabel, hcount⟩ := ofGroup_eq hgroup
      rw [List.filter_cons, List.filter_cons, hlabel]
      split
      · rw [List.map_cons, List.map_cons, List.sum_cons, List.sum_cons, ih, hcount]
      · exact ih

/-- The totals of groups have the labels of the first records. -/
lemma map_label_parts {groups : List (Record × List Record)} {parts : List TypeTotal}
    (h : List.Forall₂ (fun group t => ofGroup s config column group = .ok t) groups parts) :
    parts.map (·.label) =
      groups.map fun group => (s.relation.cell column.name group.1).typeLabel config := by
  induction h with
  | nil => rfl
  | cons hgroup _ ih => rw [List.map_cons, List.map_cons, ih, (ofGroup_eq hgroup).1]

/-- **No record is lost**: the counts by type add up to the number of records. -/
lemma sum_counts_ofSelection (h : ofSelection s config column = .ok totals) :
    (totals.map (·.count)).sum = s.records.length := by
  obtain ⟨parts, hparts, rfl⟩ := ofSelection_eq_ok_iff.mp h
  have hgrouping := isGrouping_groupRecords s.relation typeName
    (fun record => textCell (s.trimmed? column record)) s.records
  have hsum := sum_counts_filter hparts fun _ => true
  have hcount := hgrouping.countP_eq (p := fun _ => true) fun _ _ _ _ => rfl
  rw [List.filter_true] at hsum
  rw [sum_counts_combine, hsum]
  rw [List.countP_true] at hcount
  exact hcount.symm

/-- Records of one type have one label. -/
lemma typeLabel_of_compare {r r' : Record}
    (h : Cell.compare (textCell (s.trimmed? column r)) (textCell (s.trimmed? column r')) = .eq) :
    (s.relation.cell column.name r).typeLabel config =
      (s.relation.cell column.name r').typeLabel config := by
  have htrimmed := compare_textCell_eq_eq_iff.mp h
  rw [Selection.trimmed?, Selection.trimmed?] at htrimmed
  rw [Cell.typeLabel, Cell.typeLabel, htrimmed]

/-- **Each label counts its records**, if no group has records of different labels. -/
lemma isTally_totals (h : ofSelection s config column = .ok totals)
    (hseparates : s.relation.Separates typeName s.records fun record =>
      (s.relation.cell column.name record).typeLabel config) :
    IsTally (totals.map fun t => ⟨t.label, t.count⟩) (s.records.map fun record =>
      (s.relation.cell column.name record).typeLabel config) := by
  obtain ⟨parts, hparts, rfl⟩ := ofSelection_eq_ok_iff.mp h
  let label (record : Record) : String := (s.relation.cell column.name record).typeLabel config
  have hgrouping := isGrouping_groupRecords s.relation typeName
    (fun record => textCell (s.trimmed? column record)) s.records
  have hshared : ∀ group ∈ groupsOf s column, ∀ record ∈ group.2, label record = label group.1 :=
    fun group hgroup record hrecord =>
      same_of_separates hseparates (fun _ _ _ _ => typeLabel_of_compare) hgroup hrecord
  have hlabels := map_label_parts hparts
  refine ⟨fun l => ?_, fun entry hentry => ?_⟩
  · rw [List.map_map]
    refine mem_combine_iff.trans ?_
    rw [hlabels, List.mem_map, List.mem_map]
    constructor
    · rintro ⟨group, hgroup, rfl⟩
      exact ⟨group.1, hgrouping.first_mem_items hgroup, rfl⟩
    · rintro ⟨record, hrecord, rfl⟩
      obtain ⟨group, hgroup, hmem⟩ := hgrouping.mem_iff.mp hrecord
      exact ⟨group, hgroup, (hshared group hgroup record hmem).symm⟩
  · obtain ⟨t, ht, rfl⟩ := List.mem_map.mp hentry
    have hcount := hgrouping.countP_eq (p := fun record => t.label == label record)
      fun group hgroup record hrecord => by rw [hshared group hgroup record hrecord]
    have hbeq : (fun record => t.label == label record) = fun record => label record == t.label :=
      funext fun record => Bool.beq_comm
    rw [count_of_mem_combine ht, sum_counts_filter hparts fun l => t.label == l, List.count,
      List.countP_map]
    refine hcount.symm.trans ?_
    rw [hbeq]
    rfl

end

/-! ### The counts -/

/-- The counts of totals, in another order. -/
lemma counts_perm (totals : List TypeTotal) :
    (counts totals).Perm (totals.map fun t => ⟨t.label, t.count⟩) :=
  sortBy_perm _ _

/-- The counts of totals with different labels are a ranking. -/
lemma isRanking_counts {totals : List TypeTotal} (h : (totals.map (·.label)).Nodup) :
    IsRanking (counts totals) := by
  have hnodup : ((counts totals).map (·.label)).Nodup := by
    rw [((counts_perm totals).map _).nodup_iff, List.map_map]
    exact h
  refine ⟨hnodup, ?_⟩
  have hranked : (counts totals).Pairwise fun a b =>
      b.count < a.count ∨ b.count = a.count ∧ a.label ≤ b.label :=
    sortBy_ranked_pairwise LabeledCount.count LabeledCount.label _
  rw [List.Nodup, List.pairwise_map] at hnodup
  refine (hranked.and hnodup).imp fun {a b} hab => ?_
  rcases hab with ⟨hlt | ⟨heq, hle⟩, hne⟩
  · exact Or.inl hlt
  · exact Or.inr ⟨heq, lt_of_le_of_ne hle hne⟩

/-- Counts and sums have the same labels. -/
lemma labels_sums_perm (totals : List TypeTotal) :
    ((sums totals).map (·.label)).Perm ((counts totals).map (·.label)) := by
  have hsums : ((sums totals).map (·.label)).Perm (totals.map (·.label)) := by
    refine ((sortBy_perm _ _).map _).trans ?_
    rw [List.map_map]
    exact List.Perm.refl _
  have hcounts : ((counts totals).map (·.label)).Perm (totals.map (·.label)) := by
    refine ((counts_perm totals).map _).trans ?_
    rw [List.map_map]
    exact List.Perm.refl _
  exact hsums.trans hcounts.symm

/-- The totals of a selection are made if and only if the type of each group is well-formed. -/
lemma exists_ofSelection_iff {s : Selection} {config : Config} {column : Identifier} :
    (∃ totals, ofSelection s config column = .ok totals) ↔
      ∀ group ∈ groupsOf s column, isLegible (s.trimmed? column group.1) = true := by
  have hgroup : ∀ group : Record × List Record,
      (∃ t, ofGroup s config column group = .ok t) ↔
        isLegible (s.trimmed? column group.1) = true := by
    intro group
    rw [← exists_shownText_getD_iff]
    constructor
    · rintro ⟨t, ht⟩
      obtain ⟨label, hlabel, -⟩ := Result.bind_eq_ok_iff.mp ht
      obtain ⟨text, htext, -⟩ := Result.bind_eq_ok_iff.mp hlabel
      exact ⟨text, htext⟩
    · rintro ⟨text, htext⟩
      exact ⟨_, Result.bind_eq_ok (Result.bind_eq_ok htext rfl) rfl⟩
  have hparts : (∃ totals, ofSelection s config column = .ok totals) ↔
      ∃ parts, (groupsOf s column).mapM (ofGroup s config column) = .ok parts := by
    simp only [ofSelection_eq_ok_iff, ← Result.mapM_eq_ok_iff]
    exact ⟨fun ⟨_, parts, hparts, _⟩ => ⟨parts, hparts⟩,
      fun ⟨parts, hparts⟩ => ⟨_, parts, hparts, rfl⟩⟩
  rw [hparts, Result.exists_mapM_iff]
  exact forall₂_congr fun group _ => hgroup group

end TypeTotal

end TableExplorer
