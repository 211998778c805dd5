import TableExplorer.Proofs.Dashboard.Axis

/-!
Merged counts.  The totals that rank the keys of a series and the totals that stand on its axis are
added up on two ways: the former entry after entry over all tables, the latter along each table's
stack.  For counts both are `keySum`, the sum of all values under a key.

* `value_of_mem_totalsByKey`, `addStacks_eq_keySum`: **both ways add up all values under a key**;
  `totals_combine`: **the totals on an axis are those that rank it**.
* `StackedSeries.IsMergeOf`: a series is exact and aligned; `isMergeOf_combine`: **merged series
  are**.
* `StackedSeries.Ranked`: the largest total comes first; `ranked_combine`: **merged rankings do so,
  and what they leave out is not larger**.
* `mergeSummaries_counts`: **the counts of a dashboard**.
-/

namespace TableExplorer

/-! ### Sums -/

/-- The values under a key, added up. -/
def keySum (entries : List (SeriesEntry Nat)) (key : String) : Nat :=
  ((entries.filter fun e => e.key == key).map (·.value)).sum

/-- Values are added up from any number. -/
lemma foldl_value (entries : List (SeriesEntry Nat)) (n : Nat) :
    entries.foldl (fun sum e => sum + e.value) n = n + (entries.map (·.value)).sum := by
  induction entries generalizing n with
  | nil => rfl
  | cons e rest ih => rw [List.foldl_cons, ih, List.map_cons, List.sum_cons, Nat.add_assoc]

/-- The values of one table under a key are added up. -/
lemma valueAt_eq_keySum (entries : List (SeriesEntry Nat)) (key : String) :
    valueAt entries key = keySum entries key := by
  have hfold := foldl_value (entries.filter fun e => e.key == key) 0
  rw [Nat.zero_add] at hfold
  exact hfold

/-- An entry adds its value under its own key only. -/
lemma keySum_cons (e : SeriesEntry Nat) (entries : List (SeriesEntry Nat)) (key : String) :
    keySum (e :: entries) key = (if e.key = key then e.value else 0) + keySum entries key := by
  rw [keySum, List.filter_cons]
  by_cases hkey : e.key = key
  · rw [if_pos (beq_iff_eq.mpr hkey), if_pos hkey, List.map_cons, List.sum_cons, keySum]
  · rw [if_neg (beq_iff_eq.not.mpr hkey), if_neg hkey, Nat.zero_add, keySum]

/-- The sums of parts add up to that of the whole. -/
lemma keySum_flatMap {β : Type} (f : β → List (SeriesEntry Nat)) (parts : List β) (key : String) :
    keySum (parts.flatMap f) key = (parts.map fun part => keySum (f part) key).sum := by
  induction parts with
  | nil => rfl
  | cons part parts ih =>
      rw [List.flatMap_cons, List.map_cons, List.sum_cons, ← ih, keySum, keySum, keySum,
        List.filter_append, List.map_append, List.sum_append]

/-- The total of the first entry's key. -/
lemma value_totalFrom (first : SeriesEntry Nat) (rest : List (SeriesEntry Nat)) :
    (totalFrom first rest).value = keySum (first :: rest) first.key := by
  have hsame : (fun e : SeriesEntry Nat => first.key == e.key) = fun e => e.key == first.key := by
    funext e
    exact Bool.beq_comm
  rw [totalFrom, hsame, keySum_cons, if_pos rfl]
  exact foldl_value _ _

/-- **The ranking totals** add up all values under a key. -/
lemma value_of_mem_totalsByKey {entries : List (SeriesEntry Nat)} {e : SeriesEntry Nat}
    (h : e ∈ totalsByKey entries) : e.value = keySum entries e.key := by
  induction entries with
  | nil => cases h
  | cons first rest ih =>
      rw [totalsByKey, List.mem_cons] at h
      rcases h with rfl | h
      · exact value_totalFrom first rest
      · -- another key: the first entry adds nothing to it
        obtain ⟨hmem, hne⟩ := List.mem_filter.mp h
        have hkey : first.key ≠ e.key := by simpa using hne
        rw [keySum_cons, if_neg hkey, Nat.zero_add]
        exact ih hmem

/-- **The totals on an axis** add up all values under a key. -/
lemma addStacks_eq_keySum (keys : List String) (cs : List (Contribution Nat)) :
    addStacks keys.length (cs.map fun c => c.stack keys) =
      keys.map (keySum (cs.flatMap (·.entries))) := by
  rw [addStacks_stack]
  refine List.map_congr_left fun key _ => ?_
  simp only [keySum_flatMap, valueAt_eq_keySum]
  exact List.sum_eq_foldl.symm

/-! ### The series of an axis -/

section

variable {ranking : Ranking} {limit? : Option Nat} {cs : List (Contribution Nat)}

/-- The entries of an axis have the totals of their keys. -/
lemma value_of_mem_rank {e : SeriesEntry Nat} (h : e ∈ rank ranking limit? cs) :
    e.value = keySum (cs.flatMap (·.entries)) e.key :=
  value_of_mem_totalsByKey (mem_totalsByKey_of_mem_rank h)

/-- The labels show the entries of the axis. -/
lemma labels_combine :
    (combine ranking limit? cs).labels = (rank ranking limit? cs).map (·.display) := rfl

/-- The stacks stand along the keys of the axis. -/
lemma byTable_combine : (combine ranking limit? cs).byTable =
    cs.map fun c => c.stack ((rank ranking limit? cs).map (·.key)) := rfl

/-- **The totals on an axis are those that rank it.** -/
theorem totals_combine :
    (combine ranking limit? cs).totals = (rank ranking limit? cs).map (·.value) := by
  have hstacks : (combine ranking limit? cs).totals =
      addStacks (rank ranking limit? cs).length (combine ranking limit? cs).byTable := rfl
  rw [hstacks, byTable_combine, ← List.length_map (·.key), addStacks_eq_keySum, List.map_map]
  exact List.map_congr_left fun e he => (value_of_mem_rank he).symm

end

/-! ### Exact and aligned series -/

namespace StackedSeries

/-- A series of counts merges what some tables contribute, along an axis of keys: each label stands
for a key that occurs; the totals, which are as many, are the sums of all values under the keys, and
those of the stacks; and the stacks, which are as long, are one for each table with entries, in the
order of the tables, with the table's own sums. -/
structure IsMergeOf (s : StackedSeries Nat) (entries : TableSummary → List (SeriesEntry Nat))
    (partials : List TableSummary) (keys : List String) : Prop where
  nodup : keys.Nodup
  occurs : ∀ key ∈ keys, key ∈ (partials.flatMap entries).map (·.key)
  labels : s.labels = keys.map (displayOf (partials.flatMap entries))
  length_totals : s.totals.length = s.labels.length
  length_values : ∀ stack ∈ s.byTable, stack.values.length = s.labels.length
  totals : s.totals = keys.map (keySum (partials.flatMap entries))
  totals_stacks : ∀ (i : Nat) (h : i < s.totals.length),
    s.totals[i] = (s.byTable.map fun stack => stack.values.getD i 0).sum
  byTable : s.byTable = (partials.filter fun p => !(entries p).isEmpty).map fun p =>
    ⟨p.table, keys.map (keySum (entries p))⟩

/-- The largest total comes first; of equal ones, the one with the smaller label. -/
def Ranked (s : StackedSeries Nat) : Prop :=
  (s.labels.zip s.totals).Pairwise fun a b => b.2 < a.2 ∨ b.2 = a.2 ∧ a.1 ≤ b.1

end StackedSeries

variable {entries : TableSummary → List (SeriesEntry Nat)} {partials : List TableSummary}

/-- The stacks of the contributions. -/
lemma stacks_contributions (entries : TableSummary → List (SeriesEntry Nat))
    (partials : List TableSummary) (keys : List String) :
    (contributions entries partials).map (fun c => c.stack keys) =
      (partials.filter fun p => !(entries p).isEmpty).map fun p =>
        ⟨p.table, keys.map (keySum (entries p))⟩ := by
  rw [contributions, List.filter_map, List.map_map]
  refine List.map_congr_left fun p _ => ?_
  have hvalues : valueAt (entries p) = keySum (entries p) := funext (valueAt_eq_keySum (entries p))
  simp only [Function.comp_apply, Contribution.stack, hvalues]

/-- The total of a key is the sum of the values that stand above its place. -/
lemma keySum_eq_sum_stacks (contributions : List (Contribution Nat)) {keys : List String} {i : Nat}
    (h : i < keys.length) :
    keySum (contributions.flatMap (·.entries)) keys[i] =
      ((contributions.map fun c => c.stack keys).map fun stack => stack.values.getD i 0).sum := by
  rw [keySum_flatMap, List.map_map]
  refine congrArg List.sum (List.map_congr_left fun c _ => ?_)
  simp [Contribution.stack, valueAt_eq_keySum, h]

/-- **Merged series are exact and aligned.** -/
theorem isMergeOf_combine (ranking : Ranking) (limit? : Option Nat)
    (entries : TableSummary → List (SeriesEntry Nat)) (partials : List TableSummary) :
    (combine ranking limit? (contributions entries partials)).IsMergeOf entries partials
      ((rank ranking limit? (contributions entries partials)).map (·.key)) := by
  have hflat := flatMap_contributions entries partials
  refine ⟨nodup_keys_rank ranking limit? _, fun key hkey => ?_, ?_, ?_, fun stack hstack => ?_, ?_,
    fun i hi => ?_, ?_⟩
  · obtain ⟨e, he, rfl⟩ := List.mem_map.mp hkey
    rw [← hflat]
    exact mem_keys_totalsByKey.mp (List.mem_map_of_mem (mem_totalsByKey_of_mem_rank he))
  · rw [labels_combine, List.map_map, ← hflat]
    exact List.map_congr_left fun e he =>
      display_of_mem_totalsByKey (mem_totalsByKey_of_mem_rank he)
  · rw [totals_combine, labels_combine, List.length_map, List.length_map]
  · rw [byTable_combine] at hstack
    obtain ⟨c, -, rfl⟩ := List.mem_map.mp hstack
    rw [labels_combine, Contribution.stack, List.length_map, List.length_map, List.length_map]
  · rw [totals_combine, List.map_map, ← hflat]
    exact List.map_congr_left fun e he => value_of_mem_rank he
  · rw [totals_combine, List.length_map] at hi
    have hkeys : i < ((rank ranking limit? (contributions entries partials)).map
        (·.key)).length := by
      rw [List.length_map]
      exact hi
    rw [byTable_combine, ← keySum_eq_sum_stacks _ hkeys]
    simp only [totals_combine, List.getElem_map]
    exact value_of_mem_rank (List.getElem_mem hi)
  · rw [byTable_combine, stacks_contributions]

/-! ### Rankings -/

/-- A whole ranking is sorted. -/
lemma rank_byTotal_pairwise (cs : List (Contribution Nat)) :
    (rank .byTotal none cs).Pairwise fun a b =>
      b.value < a.value ∨ b.value = a.value ∧ a.display ≤ b.display :=
  sortBy_ranked_pairwise SeriesEntry.value SeriesEntry.display _

/-- An axis by keys is sorted. -/
lemma rank_byKey_pairwise {α : Type} [Metric α] (cs : List (Contribution α)) :
    ((rank .byKey none cs).map (·.key)).Pairwise (· ≤ ·) := by
  rw [List.pairwise_map]
  exact sortBy_compareText_pairwise SeriesEntry.key _

/-- **Merged rankings come with the largest total first.** -/
theorem ranked_combine (limit? : Option Nat) (cs : List (Contribution Nat)) :
    (combine .byTotal limit? cs).Ranked := by
  rw [StackedSeries.Ranked, totals_combine, labels_combine, List.zip_map', List.pairwise_map]
  exact (rank_byTotal_pairwise cs).sublist (rank_sublist .byTotal limit? cs)

/-- **A ranking is cut off after its largest totals**: it keeps as many keys as it may, and no key
that it leaves out has a larger total than one that it keeps. -/
theorem rank_cut (limit : Nat) (entries : TableSummary → List (SeriesEntry Nat))
    (partials : List TableSummary) :
    let keys := (rank .byTotal (some limit) (contributions entries partials)).map (·.key)
    let occurring := (partials.flatMap entries).map (·.key)
    keys.length = min limit occurring.dedup.length ∧
      ∀ dropped ∈ occurring, dropped ∉ keys → ∀ kept ∈ keys,
        keySum (partials.flatMap entries) dropped ≤ keySum (partials.flatMap entries) kept := by
  intro keys occurring
  have hcut : rank .byTotal (some limit) (contributions entries partials) =
      (rank .byTotal none (contributions entries partials)).take limit := rfl
  constructor
  · have hperm := rank_perm .byTotal (contributions entries partials)
    rw [List.length_map, hcut, List.length_take, hperm.length_eq, length_totalsByKey,
      flatMap_contributions]
  · intro dropped hoccurs hdropped kept hkept
    obtain ⟨k, hk, rfl⟩ := List.mem_map.mp hkept
    have hranked : dropped ∈
        (rank .byTotal none (contributions entries partials)).map (·.key) := by
      rw [mem_keys_rank_none, flatMap_contributions]
      exact hoccurs
    obtain ⟨d, hd, rfl⟩ := List.mem_map.mp hranked
    have hsplit := rank_byTotal_pairwise (contributions entries partials)
    rw [← flatMap_contributions, ← value_of_mem_rank hk, ← value_of_mem_rank hd]
    rw [← List.take_append_drop limit (rank .byTotal none _)] at hd hsplit
    -- what is left out stands behind the cut, and so behind all that is kept
    rcases List.mem_append.mp hd with htake | hdrop
    · exact absurd (List.mem_map_of_mem htake) hdropped
    · rcases (List.pairwise_append.mp hsplit).2.2 k hk d hdrop with hlt | ⟨heq, -⟩
      · exact hlt.le
      · exact heq.le

/-! ### The dashboard -/

/-- Where entries are shown as their keys, so are the labels. -/
lemma StackedSeries.IsMergeOf.labels_eq_keys {s : StackedSeries Nat} {keys : List String}
    (h : s.IsMergeOf entries partials keys)
    (hdisplay : ∀ p, ∀ e ∈ entries p, e.display = e.key) : s.labels = keys := by
  rw [h.labels]
  refine (List.map_congr_left fun key hkey => ?_).trans (List.map_id keys)
  refine displayOf_eq_key (fun e he => ?_) (h.occurs key hkey)
  obtain ⟨p, -, hp⟩ := List.mem_flatMap.mp he
  exact hdisplay p e hp

/-- **The counts of a dashboard**, whatever the summaries and in whatever order they come.  With the
tables by name, the counts by type, by awardee and by month are merged exactly and aligned; types
and months have a label for each key that occurs; types and awardees are ranked; months ascend; and
awardees are cut off after the largest totals. -/
theorem mergeSummaries_counts (query : String) (summaries : List TableSummary)
    (limits : MergeLimits) :
    let merged := mergeSummaries query summaries limits
    ∃ partials : List TableSummary,
      partials.Perm summaries ∧ partials.Pairwise (fun p q => p.table ≤ q.table) ∧
      (∃ keys, merged.typeCounts.IsMergeOf TableSummary.typeCountEntries partials keys ∧
        merged.typeCounts.labels = keys ∧
        (∀ key, key ∈ keys ↔
          key ∈ (partials.flatMap TableSummary.typeCountEntries).map (·.key)) ∧
        merged.typeCounts.Ranked) ∧
      (∃ keys, merged.awardees.IsMergeOf TableSummary.awardeeEntries partials keys ∧
        keys.length = min limits.awardees
          ((partials.flatMap TableSummary.awardeeEntries).map (·.key)).dedup.length ∧
        (∀ dropped ∈ (partials.flatMap TableSummary.awardeeEntries).map (·.key), dropped ∉ keys →
          ∀ kept ∈ keys, keySum (partials.flatMap TableSummary.awardeeEntries) dropped ≤
            keySum (partials.flatMap TableSummary.awardeeEntries) kept) ∧
        merged.awardees.Ranked) ∧
      ∃ keys, merged.monthlyCounts.IsMergeOf TableSummary.monthlyCountEntries partials keys ∧
        merged.monthlyCounts.labels = keys ∧
        (∀ key, key ∈ keys ↔
          key ∈ (partials.flatMap TableSummary.monthlyCountEntries).map (·.key)) ∧
        keys.Pairwise (· ≤ ·) := by
  intro merged
  let partials := sortBy (fun a b => compareText a.table b.table) summaries
  have hsorted : partials.Pairwise fun p q => p.table ≤ q.table :=
    sortBy_compareText_pairwise (·.table) summaries
  have htypes := isMergeOf_combine .byTotal none TableSummary.typeCountEntries partials
  have hmonths := isMergeOf_combine .byKey none TableSummary.monthlyCountEntries partials
  have hcut := rank_cut limits.awardees TableSummary.awardeeEntries partials
  refine ⟨partials, sortBy_perm _ _, hsorted, ⟨_, htypes, ?_, fun key => ?_, ?_⟩,
    ⟨_, isMergeOf_combine .byTotal (some limits.awardees) _ partials, hcut.1, hcut.2, ?_⟩,
    ⟨_, hmonths, ?_, fun key => ?_, ?_⟩⟩
  · refine htypes.labels_eq_keys fun p e he => ?_
    obtain ⟨c, -, rfl⟩ := List.mem_map.mp he
    rfl
  · rw [mem_keys_rank_none, flatMap_contributions]
  · exact ranked_combine none _
  · exact ranked_combine (some limits.awardees) _
  · refine hmonths.labels_eq_keys fun p e he => ?_
    obtain ⟨c, -, rfl⟩ := List.mem_map.mp he
    rfl
  · rw [mem_keys_rank_none, flatMap_contributions]
  · exact rank_byKey_pairwise _

end TableExplorer
