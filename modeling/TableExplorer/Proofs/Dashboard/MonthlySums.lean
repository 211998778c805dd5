import TableExplorer.Proofs.Binary64.ExactSums
import TableExplorer.Proofs.Dashboard.Labels

/-!
The sums by month of a dashboard.  They stand on the axis of the counts by month, though not every
month that is counted has a sum, and a summary may list a month more than once.

* `TableSummary.summedIn`, `TableSummary.sumIn`: the buckets of a month that have an amount, and
  what their amounts add up to; `flatMap_summedIn_perm`: **each bucket with an amount is found under
  one label**.
* `StackedSeries.RidesOn`: a series of sums along an axis of months; `ridesOn_align`: **the sums of
  a dashboard are one**.
* `StackedSeries.RidesOn.isExactSum`: **nothing is lost** where amounts add exactly.
* `mergeSummaries_monthlySums`: **the sums by month and the axis of the counts by month**.
-/

namespace TableExplorer

open Binary64 (AddExactly)

/-! ### Amounts of buckets -/

namespace MonthlyBucket

/-- The amounts of some buckets. -/
def amountsOf (buckets : List MonthlyBucket) : List Binary64 := buckets.filterMap (·.amount?)

/-- The rational number that the amounts of some buckets add up to. -/
def exactSum (buckets : List MonthlyBucket) : ℚ := ((amountsOf buckets).map Binary64.value).sum

/-- The amounts of buckets that have one. -/
lemma amountsOf_eq {buckets : List MonthlyBucket} (h : ∀ b ∈ buckets, b.amount?.isSome = true) :
    amountsOf buckets = buckets.map fun b => b.amount?.getD 0 := by
  induction buckets with
  | nil => rfl
  | cons b rest ih =>
      obtain ⟨hb, hrest⟩ := List.forall_mem_cons.mp h
      obtain ⟨amount, hamount⟩ := Option.isSome_iff_exists.mp hb
      rw [amountsOf, List.filterMap_cons_some hamount, List.map_cons, ← ih hrest, hamount]
      rfl

/-- The buckets without an amount add nothing. -/
lemma amountsOf_filter (buckets : List MonthlyBucket) :
    amountsOf (buckets.filter (·.amount?.isSome)) = amountsOf buckets := by
  induction buckets with
  | nil => rfl
  | cons b rest ih =>
      rw [amountsOf] at ih ⊢
      cases hamount : b.amount? <;> simp [amountsOf, hamount, ih]

/-- The sums of parts add up to that of the whole. -/
lemma sum_exactSum {β : Type} (f : β → List MonthlyBucket) (parts : List β) :
    (parts.map fun part => exactSum (f part)).sum = exactSum (parts.flatMap f) := by
  induction parts with
  | nil => rfl
  | cons part parts ih =>
      rw [List.map_cons, List.sum_cons, ih, List.flatMap_cons, exactSum, exactSum, exactSum,
        amountsOf, amountsOf, amountsOf, List.filterMap_append, List.map_append, List.sum_append]

/-- The buckets of some months, one month after the other, are all buckets of these months. -/
lemma flatMap_filter_month_perm {months : List String} {buckets : List MonthlyBucket}
    (hnodup : months.Nodup) (hcover : ∀ b ∈ buckets, b.month ∈ months) :
    (months.flatMap fun month => buckets.filter fun b => b.month == month).Perm buckets := by
  refine flatMap_picked_perm (hnodup.imp fun {month other} hne b hb => ?_) fun b hb =>
    ⟨b.month, hcover b hb, beq_self_eq_true _⟩
  rw [beq_iff_eq.mp hb]
  exact beq_eq_false_iff_ne.mpr hne

/-- The order of the buckets does not matter. -/
lemma exactSum_eq_of_perm {buckets others : List MonthlyBucket} (h : buckets.Perm others) :
    exactSum buckets = exactSum others :=
  ((h.filterMap _).map _).sum_eq

end MonthlyBucket

open MonthlyBucket (amountsOf exactSum)

/-! ### The amounts of one table -/

namespace TableSummary

/-- The buckets that have an amount. -/
def summed (p : TableSummary) : List MonthlyBucket := p.monthly.filter (·.amount?.isSome)

/-- The buckets of a month that have an amount. -/
def summedIn (p : TableSummary) (month : String) : List MonthlyBucket :=
  p.summed.filter fun b => b.month == month

/-- What the amounts of a month add up to. -/
def sumIn (p : TableSummary) (month : String) : Binary64 :=
  (amountsOf (p.summedIn month)).foldl (· + ·) 0

/-- The entries are those of the buckets that have an amount. -/
lemma monthlySumEntries_eq (p : TableSummary) :
    p.monthlySumEntries = p.summed.map fun b => ⟨b.month, b.month, b.amount?.getD 0⟩ := by
  rw [monthlySumEntries, summed]
  induction p.monthly with
  | nil => rfl
  | cons b rest ih => cases hamount : b.amount? <;> simp [hamount, ih]

/-- A table contributes nothing if no bucket has an amount. -/
lemma isEmpty_monthlySumEntries (p : TableSummary) :
    p.monthlySumEntries.isEmpty = p.summed.isEmpty := by
  rw [monthlySumEntries_eq, List.isEmpty_map]

/-- **The value under a month** is what the amounts of the month add up to. -/
lemma valueAt_monthlySumEntries (p : TableSummary) (month : String) :
    valueAt p.monthlySumEntries month = p.sumIn month := by
  have hsome : ∀ b ∈ p.summedIn month, b.amount?.isSome = true := fun b hb =>
    (List.mem_filter.mp (List.mem_filter.mp hb).1).2
  rw [valueAt, monthlySumEntries_eq, List.filter_map, List.foldl_map, sumIn,
    MonthlyBucket.amountsOf_eq hsome, List.foldl_map]
  rfl

/-- A month without amounts has the sum zero. -/
lemma sumIn_eq_zero {p : TableSummary} {month : String} (h : p.summedIn month = []) :
    p.sumIn month = 0 := by
  rw [sumIn, h]
  rfl

/-- **Each bucket with an amount is found under one label**, that of its month. -/
lemma flatMap_summedIn_perm {p : TableSummary} {months : List String} (hnodup : months.Nodup)
    (hcover : ∀ b ∈ p.monthly, b.month ∈ months) : (months.flatMap p.summedIn).Perm p.summed :=
  MonthlyBucket.flatMap_filter_month_perm hnodup fun b hb => hcover b (List.mem_filter.mp hb).1

end TableSummary

/-! ### Sums along an axis of months -/

namespace StackedSeries

/-- The sums by month of some tables stand along an axis of months: there is a stack for each table
with an amount, in the order of the tables, with the sums of the table's months; every bucket with
an amount goes into one of these sums; the totals are what the stacks add up to; and where no table
has an amount in a month, the total is zero as the sums are. -/
structure RidesOn (s : StackedSeries Binary64) (partials : List TableSummary)
    (months : List String) : Prop where
  labels : s.labels = months
  byTable : s.byTable = (partials.filter fun p => !p.summed.isEmpty).map fun p =>
    ⟨p.table, months.map p.sumIn⟩
  contributes : ∀ p ∈ partials, (months.flatMap p.summedIn).Perm p.summed
  zero : ∀ p ∈ partials, ∀ month, p.summedIn month = [] → p.sumIn month = 0
  totals : s.totals = months.map fun month =>
    ((partials.filter fun p => !p.summed.isEmpty).map (·.sumIn month)).foldl (· + ·) 0
  totals_zero : ∀ (i : Nat) (hi : i < months.length) (ht : i < s.totals.length),
    (∀ p ∈ partials, p.summedIn months[i] = []) → s.totals[i] = 0

/-- The sums and the totals are exact, and the totals add up to all amounts. -/
structure IsExactSum (s : StackedSeries Binary64) (partials : List TableSummary)
    (months : List String) : Prop where
  byTable : s.byTable.map (fun stack => (stack.table, stack.values.map Binary64.value)) =
    (partials.filter fun p => !p.summed.isEmpty).map fun p =>
      (p.table, months.map fun month => exactSum (p.summedIn month))
  totals : s.totals.map Binary64.value =
    months.map fun month => exactSum (partials.flatMap (·.summedIn month))
  conserved : (s.totals.map Binary64.value).sum = exactSum (partials.flatMap (·.monthly))

end StackedSeries

/-- The stacks of the tables that contribute sums. -/
lemma stacks_monthlySums (partials : List TableSummary) (months : List String) :
    (contributions TableSummary.monthlySumEntries partials).map (fun c => c.stack months) =
      (partials.filter fun p => !p.summed.isEmpty).map fun p => ⟨p.table, months.map p.sumIn⟩ := by
  simp only [contributions, List.filter_map, List.map_map, Function.comp_def,
    TableSummary.isEmpty_monthlySumEntries, Contribution.stack]
  refine List.map_congr_left fun p _ => ?_
  rw [funext (TableSummary.valueAt_monthlySumEntries p)]

/-- Zeros add up to zero. -/
lemma foldl_add_zero {xs : List Binary64} (h : ∀ x ∈ xs, x = 0) : xs.foldl (· + ·) 0 = 0 := by
  induction xs with
  | nil => rfl
  | cons x xs ih =>
      obtain ⟨hx, hxs⟩ := List.forall_mem_cons.mp h
      have hzero : (0 : Binary64) + 0 = 0 := rfl
      rw [List.foldl_cons, hx, hzero, ih hxs]

/-- **The sums of a dashboard stand along any axis** that has the months of all buckets. -/
lemma ridesOn_align {β : Type} {axis : List (SeriesEntry β)} {partials : List TableSummary}
    (hdisplay : axis.map (·.display) = axis.map (·.key)) (hnodup : (axis.map (·.key)).Nodup)
    (hcover : ∀ p ∈ partials, ∀ b ∈ p.monthly, b.month ∈ axis.map (·.key)) :
    (align axis (contributions TableSummary.monthlySumEntries partials)).RidesOn partials
      (axis.map (·.key)) := by
  have htotals : (align axis (contributions TableSummary.monthlySumEntries partials)).totals =
      (axis.map (·.key)).map fun month =>
        ((partials.filter fun p => !p.summed.isEmpty).map (·.sumIn month)).foldl (· + ·) 0 := by
    rw [align, ← List.length_map (·.key), addStacks_stack]
    refine List.map_congr_left fun month _ => ?_
    simp only [contributions, List.filter_map, List.map_map, Function.comp_def,
      TableSummary.isEmpty_monthlySumEntries, TableSummary.valueAt_monthlySumEntries]
  refine ⟨hdisplay, stacks_monthlySums partials _, fun p hp => ?_, fun p _ month => ?_, htotals,
    fun i hi ht hnone => ?_⟩
  · exact TableSummary.flatMap_summedIn_perm hnodup (hcover p hp)
  · exact TableSummary.sumIn_eq_zero
  · simp only [htotals, List.getElem_map]
    refine foldl_add_zero fun x hx => ?_
    obtain ⟨p, hp, rfl⟩ := List.mem_map.mp hx
    exact TableSummary.sumIn_eq_zero (by simpa using hnone p (List.mem_filter.mp hp).1)

/-! ### Exact sums -/

section

variable {partials : List TableSummary} {months : List String}

/-- The amounts of a month are among those of the table. -/
lemma summedIn_sublist (p : TableSummary) (month : String) :
    (p.summedIn month).Sublist p.monthly :=
  List.filter_sublist.trans List.filter_sublist

/-- Tables without amounts have none in a month. -/
lemma flatMap_summedIn_filter (partials : List TableSummary) (month : String) :
    (partials.filter fun p => !p.summed.isEmpty).flatMap (·.summedIn month) =
      partials.flatMap (·.summedIn month) := by
  induction partials with
  | nil => rfl
  | cons p rest ih =>
      rw [List.filter_cons, List.flatMap_cons, ← ih]
      split
      · rfl
      · rename_i hempty
        have hnil : p.summed = [] := by simpa using hempty
        rw [TableSummary.summedIn, hnil]
        rfl

/-- The amounts of all months are those of all buckets. -/
lemma exactSum_months (hnodup : months.Nodup)
    (hcover : ∀ p ∈ partials, ∀ b ∈ p.monthly, b.month ∈ months) :
    exactSum (months.flatMap fun month => partials.flatMap (·.summedIn month)) =
      exactSum (partials.flatMap (·.monthly)) := by
  have hmonth : ∀ month, partials.flatMap (·.summedIn month) =
      (partials.flatMap (·.summed)).filter fun b => b.month == month := by
    intro month
    rw [List.filter_flatMap]
    rfl
  have hamounts : amountsOf (partials.flatMap (·.summed)) =
      amountsOf (partials.flatMap (·.monthly)) := by
    rw [amountsOf, amountsOf, List.filterMap_flatMap, List.filterMap_flatMap]
    exact List.flatMap_congr fun p _ => MonthlyBucket.amountsOf_filter p.monthly
  have hperm : (months.flatMap fun month => partials.flatMap (·.summedIn month)).Perm
      (partials.flatMap (·.summed)) := by
    simp only [hmonth]
    refine MonthlyBucket.flatMap_filter_month_perm hnodup fun b hb => ?_
    obtain ⟨p, hp, hb⟩ := List.mem_flatMap.mp hb
    exact hcover p hp b (List.mem_filter.mp hb).1
  rw [MonthlyBucket.exactSum_eq_of_perm hperm, exactSum, hamounts, exactSum]

/-- **Nothing is lost**: the sums of a dashboard are exact if the amounts add exactly. -/
lemma StackedSeries.RidesOn.isExactSum {s : StackedSeries Binary64} (h : s.RidesOn partials months)
    (hnodup : months.Nodup) (hcover : ∀ p ∈ partials, ∀ b ∈ p.monthly, b.month ∈ months)
    (hexact : AddExactly (amountsOf (partials.flatMap (·.monthly)))) :
    s.IsExactSum partials months := by
  have hadd : ∀ {buckets : List MonthlyBucket}, buckets.Sublist (partials.flatMap (·.monthly)) →
      AddExactly (amountsOf buckets) := fun hsub => hexact.subperm (hsub.filterMap _).subperm
  have htotals : s.totals.map Binary64.value =
      months.map fun month => exactSum (partials.flatMap (·.summedIn month)) := by
    rw [h.totals, List.map_map]
    refine List.map_congr_left fun month _ => ?_
    have hparts : ((partials.filter fun p => !p.summed.isEmpty).map fun p =>
        amountsOf (p.summedIn month)).flatten =
      amountsOf (partials.flatMap (·.summedIn month)) := by
      rw [← flatMap_summedIn_filter, amountsOf, List.filterMap_flatMap]
      rfl
    have hsub := List.Sublist.flatMap_right partials fun p _ => summedIn_sublist p month
    have hsum := (hparts ▸ hadd hsub).value_foldl_parts
    rw [List.map_map, hparts] at hsum
    exact hsum
  refine ⟨?_, htotals, ?_⟩
  · rw [h.byTable, List.map_map]
    refine List.map_congr_left fun p hp => Prod.ext rfl ?_
    show (months.map p.sumIn).map Binary64.value = _
    rw [List.map_map]
    refine List.map_congr_left fun month _ => (hadd ?_).value_foldl.2
    exact (summedIn_sublist p month).trans
      (List.sublist_flatten_of_mem (List.mem_map_of_mem (List.mem_filter.mp hp).1))
  · rw [htotals, MonthlyBucket.sum_exactSum, exactSum_months hnodup hcover]

end

/-! ### The dashboard -/

/-- **The sums by month and the axis of the counts by month**, whatever the summaries, in whatever
order they come, and however often one lists a month.  The labels of the counts are the months of
all buckets, strictly ascending; the sums have the same labels, and every amount goes into the sum
of its month in the stack of its table.  Where amounts add exactly, nothing is lost. -/
theorem mergeSummaries_monthlySums (query : String) (summaries : List TableSummary)
    (limits : MergeLimits) :
    let merged := mergeSummaries query summaries limits
    ∃ (partials : List TableSummary) (months : List String),
      partials.Perm summaries ∧ partials.Pairwise (fun p q => p.table ≤ q.table) ∧
      merged.monthlyCounts.labels = months ∧ months.Pairwise (· < ·) ∧
      (∀ month, month ∈ months ↔ ∃ p ∈ summaries, ∃ b ∈ p.monthly, b.month = month) ∧
      merged.monthlySums.RidesOn partials months ∧
      (AddExactly (amountsOf (summaries.flatMap (·.monthly))) →
        merged.monthlySums.IsExactSum partials months) := by
  intro merged
  let partials := sortBy (fun a b => compareText a.table b.table) summaries
  let axis := rank .byKey none (contributions TableSummary.monthlyCountEntries partials)
  have hperm : partials.Perm summaries := sortBy_perm _ _
  have hdisplay : axis.map (·.display) = axis.map (·.key) :=
    map_display_rank .byKey none display_monthlyCountEntries
  have hnodup : (axis.map (·.key)).Nodup := nodup_keys_rank .byKey none _
  have hascending : (axis.map (·.key)).Pairwise (· < ·) :=
    ((rank_byKey_pairwise _).and hnodup).imp fun h => lt_of_le_of_ne h.1 h.2
  have hmem : ∀ month, month ∈ axis.map (·.key) ↔ ∃ p ∈ summaries, ∃ b ∈ p.monthly,
      b.month = month := by
    intro month
    rw [mem_keys_rank_none, flatMap_contributions]
    simp only [TableSummary.monthlyCountEntries, List.map_flatMap, List.map_map, List.mem_flatMap,
      List.mem_map, Function.comp_def, hperm.mem_iff]
  have hcover : ∀ p ∈ partials, ∀ b ∈ p.monthly, b.month ∈ axis.map (·.key) := fun p hp b hb =>
    (hmem b.month).mpr ⟨p, hperm.mem_iff.mp hp, b, hb, rfl⟩
  have hlabels : merged.monthlyCounts.labels = axis.map (·.key) := hdisplay
  have hrides : merged.monthlySums.RidesOn partials (axis.map (·.key)) :=
    ridesOn_align hdisplay hnodup hcover
  refine ⟨partials, axis.map (·.key), hperm, sortBy_compareText_pairwise (·.table) summaries,
    hlabels, hascending, hmem, hrides, fun hexact => ?_⟩
  refine hrides.isExactSum hnodup hcover (hexact.subperm ?_)
  exact ((hperm.flatMap_right _).filterMap _).subperm

/-- A summary that lists a month twice, once without an amount, and one that has no amounts. -/
def repeatedMonth : List TableSummary :=
  [{ table := "b", monthly := [⟨"2024-02", 4, none⟩, ⟨"2023-12", 1, none⟩] },
    { table := "a", monthly :=
      [⟨"2024-01", 1, some (.ofInt 2)⟩, ⟨"2024-02", 1, none⟩, ⟨"2024-01", 3, some (.ofInt 5)⟩] }]

/-- The month that is listed twice has both amounts, the months without amounts have the sum zero,
and only the summary with amounts has a stack. -/
theorem monthlySums_of_repeatedMonth :
    let merged := mergeSummaries "" repeatedMonth ⟨3, 3⟩
    merged.monthlyCounts.labels = ["2023-12", "2024-01", "2024-02"] ∧
      merged.monthlySums.labels = ["2023-12", "2024-01", "2024-02"] ∧
      merged.monthlySums.byTable = [⟨"a", [0, .ofInt 7, 0]⟩] ∧
      (merged.monthlySums.totals.map Binary64.value).sum = 7 := by
  intro merged
  have hlabels : merged.monthlyCounts.labels = ["2023-12", "2024-01", "2024-02"] := by
    decide +kernel
  have hstacks : merged.monthlySums.byTable = [⟨"a", [0, .ofInt 7, 0]⟩] := by decide +kernel
  obtain ⟨partials, months, hperm, -, hmonths, -, -, hrides, hexact⟩ :=
    mergeSummaries_monthlySums "" repeatedMonth ⟨3, 3⟩
  have htwo := Binary64.value_ofInt (i := 2) (by decide)
  have hfive := Binary64.value_ofInt (i := 5) (by decide)
  have hamounts : amountsOf (repeatedMonth.flatMap (·.monthly)) = [.ofInt 2, .ofInt 5] := rfl
  have hadd : AddExactly (amountsOf (repeatedMonth.flatMap (·.monthly))) := by
    rw [hamounts]
    refine Binary64.addExactly_of_whole ?_ ?_ ?_
    · exact List.forall_mem_cons.mpr ⟨htwo.1, List.forall_mem_singleton.mpr hfive.1⟩
    · exact List.forall_mem_cons.mpr ⟨⟨2, htwo.2⟩, List.forall_mem_singleton.mpr ⟨5, hfive.2⟩⟩
    · norm_num [htwo.2, hfive.2]
  refine ⟨hlabels, hrides.labels.trans (hmonths.symm.trans hlabels), hstacks, ?_⟩
  rw [(hexact hadd).conserved, MonthlyBucket.exactSum_eq_of_perm (hperm.flatMap_right _), exactSum,
    hamounts]
  norm_num [htwo.2, hfive.2]

end TableExplorer
