import TableExplorer.Proofs.Numeral.Thousandths

/-!
Exact sums.  A sum of two numbers is rounded, so what many numbers add up to depends on their order
in general.  It does not where nothing is rounded: `AddExactly xs` says that the sum of any of the
numbers `xs` is a number of the format, and then they are added up without a loss, in any order and
in any parts.

* `add_exact`: **a sum that the format has is exact**.
* `AddExactly.value_foldl`: **numbers that add exactly are added up exactly**;
  `AddExactly.value_foldl_parts`: so are the sums of parts of them.
* `addExactly_of_whole`: **whole numbers of 53 binary digits in all add exactly**.
-/

namespace TableExplorer.Binary64

variable {x y z : Binary64} {a : Bool} {m : Magnitude}

/-! ### The sum of two numbers -/

/-- Either zero is the rational number zero. -/
lemma value_finite_zero (a : Bool) : value (.finite a .zero) = 0 := by
  cases a <;> rw [value_finite, signedQuanta, Magnitude.zero] <;> exact zero_div _

lemma value_zero : (0 : Binary64).value = 0 := value_finite_zero false

/-- A sum of quanta that the format has is not rounded. -/
lemma add_finite_eq {b c : Bool} {n k : Magnitude}
    (h : signedQuanta c k = signedQuanta a m + signedQuanta b n) (h0 : signedQuanta c k ≠ 0) :
    add (.finite a m) (.finite b n) = .finite c k := by
  have hround : roundToQuanta k.quanta 1 = k.quanta := by
    simpa using roundToQuanta_mul_self Nat.one_pos (representable_iff.mp k.representable).2
  have habs : (signedQuanta c k).natAbs = k.quanta := by cases c <;> simp [signedQuanta]
  have hsign : decide (signedQuanta c k < 0) = c := by
    cases c
    · exact decide_eq_false (Int.natCast_nonneg k.quanta).not_gt
    · have hneg : signedQuanta true k ≤ 0 := Int.neg_nonpos_of_nonneg (Int.natCast_nonneg _)
      exact decide_eq_true (lt_of_le_of_ne hneg h0)
  rw [add, ← h, if_neg h0, habs, hround, hsign, ofQuanta, dif_pos k.representable]

/-- **A sum that the format has is exact.** -/
lemma add_exact (hx : x.isFinite = true) (hy : y.isFinite = true) (hz : z.isFinite = true)
    (h : z.value = x.value + y.value) :
    (x + y).isFinite = true ∧ (x + y).value = x.value + y.value := by
  obtain ⟨a, m, rfl⟩ := exists_of_isFinite hx
  obtain ⟨b, n, rfl⟩ := exists_of_isFinite hy
  obtain ⟨c, k, rfl⟩ := exists_of_isFinite hz
  have hquanta : signedQuanta c k = signedQuanta a m + signedQuanta b n := by
    have hscaled := h
    rw [value_finite, value_finite, value_finite, ← add_div,
      div_left_inj' cast_quantaPerUnit_pos.ne'] at hscaled
    exact_mod_cast hscaled
  show (add (.finite a m) (.finite b n)).isFinite = true ∧
    (add (.finite a m) (.finite b n)).value = _
  by_cases h0 : signedQuanta c k = 0
  · have hsum : add (.finite a m) (.finite b n) = .finite (a && b) .zero := by
      rw [add, ← hquanta, if_pos h0]
    rw [hsum, value_finite_zero, ← h, value_finite c, h0, Int.cast_zero, zero_div]
    exact ⟨rfl, rfl⟩
  · rw [add_finite_eq hquanta h0]
    exact ⟨rfl, h⟩

/-! ### Sums of many numbers -/

/-- The numbers are finite, and what any of them add up to is a number of the format. -/
structure AddExactly (xs : List Binary64) : Prop where
  finite : ∀ x ∈ xs, x.isFinite = true
  closed : ∀ ys : List Binary64, ys.Subperm xs →
    ∃ y : Binary64, y.isFinite = true ∧ y.value = (ys.map value).sum

namespace AddExactly

variable {xs ys : List Binary64}

/-- Some of the numbers add exactly, too. -/
lemma subperm (h : AddExactly xs) (hsub : ys.Subperm xs) : AddExactly ys where
  finite x hx := h.finite x (hsub.subset hx)
  closed zs hzs := h.closed zs (hzs.trans hsub)

/-- Adding to a sum of some of the numbers another sum of some of them is exact. -/
lemma add (h : AddExactly (xs ++ ys)) (hx : x.isFinite = true) (hy : y.isFinite = true)
    (hxs : x.value = (xs.map value).sum) (hys : y.value = (ys.map value).sum) :
    (x + y).isFinite = true ∧ (x + y).value = ((xs ++ ys).map value).sum := by
  obtain ⟨z, hz, hvalue⟩ := h.closed (xs ++ ys) (List.Subperm.refl _)
  rw [List.map_append, List.sum_append, ← hxs, ← hys] at hvalue ⊢
  exact add_exact hx hy hz hvalue

/-- **Numbers that add exactly are added up exactly.** -/
lemma value_foldl (h : AddExactly xs) :
    (xs.foldl (· + ·) 0).isFinite = true ∧
      (xs.foldl (· + ·) 0).value = (xs.map value).sum := by
  induction xs using List.reverseRecOn with
  | nil => exact ⟨rfl, value_zero⟩
  | append_singleton xs x ih =>
      obtain ⟨hfinite, hvalue⟩ := ih (h.subperm (List.sublist_append_left xs [x]).subperm)
      rw [List.foldl_concat]
      exact h.add hfinite (h.finite x (by simp)) hvalue (by simp)

/-- **The sums of parts are added up exactly**, if all numbers of the parts add exactly. -/
lemma value_foldl_parts {parts : List (List Binary64)} (h : AddExactly parts.flatten) :
    ((parts.map (List.foldl (· + ·) 0)).foldl (· + ·) 0).value =
      (parts.flatten.map value).sum := by
  suffices ((parts.map (List.foldl (· + ·) 0)).foldl (· + ·) 0).isFinite = true ∧
      ((parts.map (List.foldl (· + ·) 0)).foldl (· + ·) 0).value =
        (parts.flatten.map value).sum from this.2
  induction parts using List.reverseRecOn with
  | nil => exact ⟨rfl, value_zero⟩
  | append_singleton parts part ih =>
      rw [List.flatten_concat] at h ⊢
      obtain ⟨hfinite, hvalue⟩ := ih (h.subperm (List.sublist_append_left _ part).subperm)
      obtain ⟨hpart, hsum⟩ :=
        (h.subperm (List.sublist_append_right parts.flatten part).subperm).value_foldl
      rw [List.map_append, List.map_singleton, List.foldl_concat]
      exact h.add hfinite hpart hvalue hsum

end AddExactly

/-! ### Whole numbers -/

/-- A whole number of 53 binary digits is a number of the format. -/
lemma value_ofInt {i : Int} (h : i.natAbs < 2 ^ 53) :
    (ofInt i).isFinite = true ∧ (ofInt i).value = i := by
  have hunit := cast_quantaPerUnit_pos.ne'
  rw [ofInt, ofRatio_whole _ h]
  refine ⟨rfl, ?_⟩
  rw [value, signed, Nat.cast_mul, mul_div_cancel_right₀ _ hunit, Nat.cast_natAbs]
  split
  · rename_i hnegative
    have hneg : i < 0 := by simpa using hnegative
    rw [abs_of_neg hneg, Int.cast_neg, neg_neg]
  · rename_i hnegative
    have hnonneg : 0 ≤ i := by simpa using hnegative
    rw [abs_of_nonneg hnonneg]

/-- A sum of whole numbers is one. -/
lemma exists_sum_eq {xs : List Binary64} (h : ∀ x ∈ xs, ∃ i : Int, x.value = i) :
    ∃ i : Int, (xs.map value).sum = i := by
  induction xs with
  | nil => exact ⟨0, by simp⟩
  | cons x xs ih =>
      obtain ⟨i, hi⟩ := h x List.mem_cons_self
      obtain ⟨j, hj⟩ := ih fun y hy => h y (List.mem_cons_of_mem x hy)
      exact ⟨i + j, by rw [List.map_cons, List.sum_cons, hi, hj, Int.cast_add]⟩

/-- **Whole numbers of 53 binary digits in all add exactly.** -/
theorem addExactly_of_whole {xs : List Binary64} (hfinite : ∀ x ∈ xs, x.isFinite = true)
    (hwhole : ∀ x ∈ xs, ∃ i : Int, x.value = i)
    (hsum : (xs.map fun x => |x.value|).sum < 2 ^ 53) : AddExactly xs where
  finite := hfinite
  closed ys hys := by
    obtain ⟨i, hi⟩ := exists_sum_eq fun y hy => hwhole y (hys.subset hy)
    have hle : (ys.map fun y => |y.value|).sum ≤ (xs.map fun x => |x.value|).sum := by
      obtain ⟨zs, hperm, hsub⟩ := hys
      rw [← (hperm.map fun y => |y.value|).sum_eq]
      refine (hsub.map _).sum_le_sum fun q hq => ?_
      obtain ⟨x, -, rfl⟩ := List.mem_map.mp hq
      exact abs_nonneg _
    have habs : |(ys.map value).sum| ≤ (ys.map fun y => |y.value|).sum := by
      have hsums := Multiset.abs_sum_le_sum_abs (s := Multiset.ofList (ys.map value))
      rwa [Multiset.map_coe, Multiset.sum_coe, Multiset.sum_coe, List.map_map] at hsums
    have hsmall : |(i : ℚ)| < 2 ^ 53 := hi ▸ (habs.trans hle).trans_lt hsum
    have hbound : i.natAbs < 2 ^ 53 := by
      rw [← Int.cast_abs, Int.abs_eq_natAbs, Int.cast_natCast] at hsmall
      exact_mod_cast hsmall
    obtain ⟨hfin, hvalue⟩ := value_ofInt hbound
    exact ⟨ofInt i, hfin, hvalue.trans hi.symm⟩

end TableExplorer.Binary64
