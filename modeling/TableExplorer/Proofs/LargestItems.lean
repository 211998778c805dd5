import Mathlib

/-!
The largest values of several lists.  Cutting each list after its largest values loses none of the
largest values of all: however the values are distributed over the lists, for every threshold there
are as many values above it before as after the cut, up to the number that is kept; and these counts
determine a descending list.

* `countP_take_of_descending`: cutting a descending list cuts off the counts above all thresholds.
* `eq_of_countP_eq`: the counts above all thresholds determine a descending list.
* `take_eq_of_cuts`: **the largest values are those among the largest of each list**.
-/

namespace TableExplorer

/-- In a descending list the values above a threshold come first, so that a cut leaves as many of
them as it leaves values. -/
lemma countP_take_of_descending {values : List Int} (h : values.Pairwise (· ≥ ·)) (x : Int)
    (limit : Nat) :
    (values.take limit).countP (x ≤ ·) = min limit (values.countP (x ≤ ·)) := by
  induction values generalizing limit with
  | nil => simp
  | cons a rest ih =>
      obtain ⟨hrest, htail⟩ := List.pairwise_cons.mp h
      cases limit with
      | zero => simp
      | succ limit =>
          by_cases hx : x ≤ a
          · rw [List.take_succ_cons, List.countP_cons_of_pos (by simpa using hx),
              List.countP_cons_of_pos (by simpa using hx), ih htail, Nat.succ_min_succ]
          · -- nothing that follows is above the threshold either
            have hnone : rest.countP (x ≤ ·) = 0 := by
              rw [List.countP_eq_zero]
              intro b hb
              have hle := hrest b hb
              simp only [decide_eq_true_eq]
              omega
            rw [List.take_succ_cons, List.countP_cons_of_neg (by simpa using hx),
              List.countP_cons_of_neg (by simpa using hx), ih htail, hnone, Nat.min_zero,
              Nat.min_zero]

/-- A value occurs as often as there are more values from it on than above it. -/
lemma countP_eq_add_count (values : List Int) (x : Int) :
    values.countP (x ≤ ·) = values.countP (x + 1 ≤ ·) + values.count x := by
  induction values with
  | nil => rfl
  | cons a rest ih =>
      rw [List.countP_cons, List.countP_cons, List.count_cons, ih]
      simp only [decide_eq_true_eq, beq_iff_eq]
      split_ifs <;> omega

/-- The counts above all thresholds determine a descending list. -/
lemma eq_of_countP_eq {values others : List Int} (hvalues : values.Pairwise (· ≥ ·))
    (hothers : others.Pairwise (· ≥ ·))
    (h : ∀ x, values.countP (x ≤ ·) = others.countP (x ≤ ·)) : values = others := by
  have hperm : values.Perm others := by
    rw [List.perm_iff_count]
    intro x
    have hvalue := countP_eq_add_count values x
    have hother := countP_eq_add_count others x
    have hfrom := h x
    have habove := h (x + 1)
    omega
  exact List.Perm.eq_of_pairwise (fun x y _ _ hxy hyx => le_antisymm hyx hxy) hvalues hothers hperm

/-- Cutting each summand does not change a sum that is cut itself. -/
lemma min_sum_min {ι : Type} (limit : Nat) (counts : ι → Nat) (parts : List ι) :
    min limit (parts.map fun i => min limit (counts i)).sum =
      min limit (parts.map counts).sum := by
  induction parts with
  | nil => rfl
  | cons i rest ih =>
      rw [List.map_cons, List.map_cons, List.sum_cons, List.sum_cons]
      omega

/-- **The largest values are those among the largest of each list.**  The values of each part are
put in descending order and cut; what is left of all parts is put in descending order and cut again.
The result is that of putting all values in descending order and cutting once. -/
theorem take_eq_of_cuts {ι : Type} {parts : List ι} {values ordered : ι → List Int}
    {limit : Nat} {merged sorted : List Int}
    (hperm : ∀ i ∈ parts, (ordered i).Perm (values i))
    (hordered : ∀ i ∈ parts, (ordered i).Pairwise (· ≥ ·))
    (hmerged : merged.Perm (parts.flatMap fun i => (ordered i).take limit))
    (hmergedOrder : merged.Pairwise (· ≥ ·))
    (hsorted : sorted.Perm (parts.flatMap values)) (hsortedOrder : sorted.Pairwise (· ≥ ·)) :
    merged.take limit = sorted.take limit := by
  refine eq_of_countP_eq (hmergedOrder.sublist (List.take_sublist _ _))
    (hsortedOrder.sublist (List.take_sublist _ _)) fun x => ?_
  have hparts : (parts.flatMap fun i => (ordered i).take limit).countP (x ≤ ·) =
      (parts.map fun i => min limit ((values i).countP (x ≤ ·))).sum := by
    rw [List.countP_flatMap]
    refine congrArg List.sum (List.map_congr_left fun i hi => ?_)
    rw [Function.comp_apply, countP_take_of_descending (hordered i hi), (hperm i hi).countP_eq]
  calc (merged.take limit).countP (x ≤ ·)
      = min limit (merged.countP (x ≤ ·)) := countP_take_of_descending hmergedOrder x limit
    _ = min limit (parts.map fun i => min limit ((values i).countP (x ≤ ·))).sum := by
        rw [hmerged.countP_eq, hparts]
    _ = min limit (parts.map fun i => (values i).countP (x ≤ ·)).sum := min_sum_min _ _ _
    _ = min limit (sorted.countP (x ≤ ·)) := by
        rw [hsorted.countP_eq, List.countP_flatMap]
        rfl
    _ = (sorted.take limit).countP (x ≤ ·) :=
        (countP_take_of_descending hsortedOrder x limit).symm

end TableExplorer
