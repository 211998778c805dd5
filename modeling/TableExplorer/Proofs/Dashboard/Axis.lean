import Mathlib
import TableExplorer.Dashboard.Aggregate
import TableExplorer.Proofs.Sorting

/-!
The axis of a series.  Whatever the values that are added up, `totalsByKey` has one entry for each
key that occurs, shown as the first entry of this key is; `rank` puts these entries in order, and
may cut the order off.

* `nodup_keys_totalsByKey`, `mem_keys_totalsByKey`: **one entry for each key that occurs**.
* `display_of_mem_totalsByKey`: a key is shown as it is first.
* `rank_perm`, `rank_sublist`: what an axis keeps of the totals.
* `addStacks_stack`: the totals on an axis are the values of the tables, added up.
* `flatMap_contributions`: no entry is lost with the tables that contribute nothing.
-/

namespace TableExplorer

section

variable {α : Type} [Metric α]

/-! ### Totals by key -/

/-- There is a total for each key that occurs. -/
lemma mem_keys_totalsByKey {entries : List (SeriesEntry α)} {key : String} :
    key ∈ (totalsByKey entries).map (·.key) ↔ key ∈ entries.map (·.key) := by
  induction entries with
  | nil => exact Iff.rfl
  | cons first rest ih =>
      rw [totalsByKey, List.map_cons, List.map_cons, List.mem_cons, List.mem_cons]
      by_cases hkey : key = first.key
      · exact ⟨fun _ => Or.inl hkey, fun _ => Or.inl hkey⟩
      · refine or_congr Iff.rfl (Iff.trans ?_ ih)
        constructor
        · intro h
          obtain ⟨e, he, rfl⟩ := List.mem_map.mp h
          exact List.mem_map_of_mem (List.mem_filter.mp he).1
        · intro h
          obtain ⟨e, he, rfl⟩ := List.mem_map.mp h
          exact List.mem_map_of_mem (List.mem_filter.mpr ⟨he, by simpa using Ne.symm hkey⟩)

/-- There is only one total for a key. -/
lemma nodup_keys_totalsByKey (entries : List (SeriesEntry α)) :
    ((totalsByKey entries).map (·.key)).Nodup := by
  induction entries with
  | nil => exact List.nodup_nil
  | cons first rest ih =>
      rw [totalsByKey, List.map_cons, List.nodup_cons]
      refine ⟨fun h => ?_, (List.filter_sublist.map _).nodup ih⟩
      obtain ⟨e, he, hkey⟩ := List.mem_map.mp h
      have hne := (List.mem_filter.mp he).2
      rw [hkey] at hne
      simp [totalFrom] at hne

/-- There are as many totals as different keys. -/
lemma length_totalsByKey (entries : List (SeriesEntry α)) :
    (totalsByKey entries).length = (entries.map (·.key)).dedup.length := by
  have hperm : ((totalsByKey entries).map (·.key)).Perm (entries.map (·.key)).dedup := by
    refine (List.perm_ext_iff_of_nodup (nodup_keys_totalsByKey entries)
      (List.nodup_dedup _)).mpr fun key => ?_
    rw [mem_keys_totalsByKey, List.mem_dedup]
  rw [← hperm.length_eq, List.length_map]

/-- How a key is shown: as the first entry of this key is. -/
def displayOf (entries : List (SeriesEntry α)) (key : String) : String :=
  ((entries.find? fun e => e.key == key).map (·.display)).getD ""

omit [Metric α] in
/-- A key that occurs is shown as one of its entries is. -/
lemma exists_displayOf_eq {entries : List (SeriesEntry α)} {key : String}
    (h : key ∈ entries.map (·.key)) :
    ∃ e ∈ entries, e.key = key ∧ displayOf entries key = e.display := by
  obtain ⟨e, he, rfl⟩ := List.mem_map.mp h
  obtain ⟨first, hfirst⟩ : ∃ first, entries.find? (fun f => f.key == e.key) = some first :=
    Option.isSome_iff_exists.mp (List.find?_isSome.mpr ⟨e, he, beq_self_eq_true _⟩)
  have hkey : first.key = e.key := by simpa using List.find?_some hfirst
  refine ⟨first, List.mem_of_find?_eq_some hfirst, hkey, ?_⟩
  rw [displayOf, hfirst, Option.map_some, Option.getD_some]

omit [Metric α] in
/-- Where entries are shown as their keys, so is a key that occurs. -/
lemma displayOf_eq_key {entries : List (SeriesEntry α)}
    (hdisplay : ∀ e ∈ entries, e.display = e.key)
    {key : String} (h : key ∈ entries.map (·.key)) : displayOf entries key = key := by
  obtain ⟨e, he, hkey, hshown⟩ := exists_displayOf_eq h
  rw [hshown, hdisplay e he, hkey]

/-- A total is shown as its key is. -/
lemma display_of_mem_totalsByKey {entries : List (SeriesEntry α)} {e : SeriesEntry α}
    (h : e ∈ totalsByKey entries) : e.display = displayOf entries e.key := by
  induction entries with
  | nil => cases h
  | cons first rest ih =>
      rw [totalsByKey, List.mem_cons] at h
      rcases h with rfl | h
      · simp [displayOf, totalFrom]
      · obtain ⟨hmem, hne⟩ := List.mem_filter.mp h
        have hfind : (first.key == e.key) = false := by simpa using hne
        rw [ih hmem, displayOf, displayOf, List.find?_cons_of_neg (by simp [hfind])]

/-! ### Rankings -/

/-- A whole axis has all totals. -/
lemma rank_perm (ranking : Ranking) (contributions : List (Contribution α)) :
    (rank ranking none contributions).Perm (totalsByKey (contributions.flatMap (·.entries))) :=
  sortBy_perm _ _

/-- An axis is cut off from a whole one. -/
lemma rank_sublist (ranking : Ranking) (limit? : Option Nat)
    (contributions : List (Contribution α)) :
    (rank ranking limit? contributions).Sublist (rank ranking none contributions) := by
  cases limit? with
  | none => exact List.Sublist.refl _
  | some limit => exact List.take_sublist limit _

/-- An axis shows totals. -/
lemma mem_totalsByKey_of_mem_rank {ranking : Ranking} {limit? : Option Nat}
    {contributions : List (Contribution α)} {e : SeriesEntry α}
    (h : e ∈ rank ranking limit? contributions) :
    e ∈ totalsByKey (contributions.flatMap (·.entries)) :=
  (rank_perm ranking contributions).mem_iff.mp ((rank_sublist ranking limit? _).mem h)

/-- No key stands on an axis twice. -/
lemma nodup_keys_rank (ranking : Ranking) (limit? : Option Nat)
    (contributions : List (Contribution α)) :
    ((rank ranking limit? contributions).map (·.key)).Nodup :=
  ((rank_sublist ranking limit? _).map _).nodup
    (((rank_perm ranking contributions).map _).nodup_iff.mpr (nodup_keys_totalsByKey _))

/-- A whole axis has each key that occurs. -/
lemma mem_keys_rank_none {ranking : Ranking} {contributions : List (Contribution α)}
    {key : String} :
    key ∈ (rank ranking none contributions).map (·.key) ↔
      key ∈ (contributions.flatMap (·.entries)).map (·.key) := by
  rw [((rank_perm ranking contributions).map _).mem_iff, mem_keys_totalsByKey]

/-! ### Totals along an axis -/

/-- Stacks are added up from any totals along the axis. -/
lemma foldl_stacks (keys : List String) (cs : List (Contribution α)) (f : String → α) :
    (cs.map fun c => c.stack keys).foldl
        (fun totals stack => totals.zipWith (· + ·) stack.values) (keys.map f) =
      keys.map fun key => (cs.map fun c => valueAt c.entries key).foldl (· + ·) (f key) := by
  induction cs generalizing f with
  | nil => rfl
  | cons c cs ih =>
      have hstep : (keys.map f).zipWith (· + ·) (c.stack keys).values =
          keys.map fun key => f key + valueAt c.entries key := by
        rw [Contribution.stack, List.zipWith_map, List.zipWith_self]
      rw [List.map_cons, List.foldl_cons, hstep, ih]
      rfl

/-- **The totals on an axis** are the values of all tables under a key, added up from zero. -/
lemma addStacks_stack (keys : List String) (cs : List (Contribution α)) :
    addStacks keys.length (cs.map fun c => c.stack keys) =
      keys.map fun key => (cs.map fun c => valueAt c.entries key).foldl (· + ·) 0 := by
  have hzero : List.replicate keys.length (0 : α) = keys.map fun _ => 0 := List.map_const'.symm
  rw [addStacks, hzero]
  exact foldl_stacks keys cs _

end

/-! ### Contributions -/

/-- All entries of all tables are contributed. -/
lemma flatMap_contributions {α : Type} (entries : TableSummary → List (SeriesEntry α))
    (partials : List TableSummary) :
    (contributions entries partials).flatMap (·.entries) = partials.flatMap entries := by
  induction partials with
  | nil => rfl
  | cons p partials ih =>
      rw [contributions, List.map_cons, List.filter_cons, List.flatMap_cons, ← ih]
      split
      · rfl
      · rename_i hempty
        have hnil : entries p = [] := by simpa using hempty
        rw [hnil, List.nil_append, contributions]

end TableExplorer
