import TableExplorer.Numeral.Significant
import TableExplorer.Proofs.Numeral.ReadBack

/-!
Fifteen digits.  The decimals of fifteen digits are farther apart than the numbers of the format,
so that no two of them are read as the same number; hence a number that some decimal of fifteen
digits is read as has this decimal as its rounded digits and as its shortest ones.  The numbers
below `2 ^ -1022`, which have less than 53 binary digits, are left aside.

* `Binary64.Magnitude.abs_sub_value_le`: **how far digits are from the number** that they are read
  as.
* `Binary64.Magnitude.value_fifteenDigits`: **a decimal of fifteen digits is found again** by
  rounding the number that it is read as.
* `ScaledDigits.IsReduced.eq_of_value_eq`: digits without trailing zeros are unique.
* `Binary64.Magnitude.shortestDigits_eq_fifteenDigits`: **the shortest digits are the rounded
  ones**, if fifteen are enough.
-/

namespace TableExplorer

/-- A quotient is rounded to the number within a half of it. -/
lemma roundQuotient_eq_of_abs_sub_lt {tie : Tie} {num den k : Nat} (hden : 0 < den)
    (h : |(num : ℚ) / den - k| < 1 / 2) : roundQuotient tie num den = k := by
  refine roundQuotient_eq_of_dist_lt hden ?_
  have habs := abs_div_sub_div hden Nat.one_pos num k
  rw [Nat.cast_one, div_one, mul_one, mul_one] at habs
  rw [habs, div_lt_iff₀ (Nat.cast_pos.mpr hden)] at h
  have htwice : (2 : ℚ) * Nat.dist num (den * k) < den := by linarith
  exact_mod_cast htwice

/-! ### Trailing zeros -/

namespace ScaledDigits

variable {s t : ScaledDigits}

/-- The digits do not end in zero. -/
def IsReduced (s : ScaledDigits) : Prop := s.digits % 10 ≠ 0

/-- Dropping zeros does not add to the digits. -/
lemma digits_dropZeros_le (fuel : Nat) (s : ScaledDigits) :
    (s.dropZeros fuel).digits ≤ s.digits := by
  induction fuel generalizing s with
  | zero => exact le_rfl
  | succ fuel ih =>
      rw [dropZeros]
      split
      · exact (ih _).trans (Nat.div_le_self _ _)
      · exact le_rfl

/-- All trailing zeros are dropped, if there are not more of them than the fuel. -/
lemma isReduced_dropZeros {fuel : Nat} (hpos : 0 < s.digits) (hfuel : s.digits ≤ 10 ^ fuel) :
    (s.dropZeros fuel).IsReduced := by
  induction fuel generalizing s with
  | zero =>
      have hone : s.digits = 1 := le_antisymm hfuel hpos
      rw [dropZeros, IsReduced, hone]
      decide
  | succ fuel ih =>
      rw [dropZeros]
      split
      · rename_i h
        refine ih (Nat.div_pos (Nat.le_of_dvd hpos (Nat.dvd_of_mod_eq_zero h.2)) (by decide)) ?_
        exact Nat.div_le_of_le_mul (hfuel.trans_eq (Nat.pow_succ'))
      · rename_i h
        exact fun hzero => h ⟨hpos.ne', hzero⟩

lemma IsReduced.digits_pos (h : s.IsReduced) : 0 < s.digits :=
  Nat.pos_of_ne_zero fun h0 => h (by rw [h0])

/-- Of two ways to write a number, that with the larger exponent has the fewer zeros. -/
lemma digits_eq_of_value_eq (h : s.value = t.value) (hle : s.exponent ≤ t.exponent) :
    s.digits = t.digits * 10 ^ (t.exponent - s.exponent).toNat := by
  have hsplit : t.exponent = ((t.exponent - s.exponent).toNat : Int) + s.exponent := by omega
  rw [value, value, hsplit, zpow_add₀ (by norm_num), zpow_natCast, ← mul_assoc] at h
  exact_mod_cast mul_right_cancel₀ (zpow_ne_zero s.exponent (by norm_num : (10 : ℚ) ≠ 0)) h

/-- **Digits without trailing zeros are unique.** -/
lemma IsReduced.eq_of_value_eq (hs : s.IsReduced) (ht : t.IsReduced) (h : s.value = t.value) :
    s = t := by
  have hexponent : ∀ s t : ScaledDigits, s.IsReduced → s.value = t.value →
      t.exponent ≤ s.exponent := by
    intro s t hs h
    by_contra hlt
    have hdigits := digits_eq_of_value_eq h (by omega)
    obtain ⟨k, hk⟩ : ∃ k, (t.exponent - s.exponent).toNat = k + 1 :=
      ⟨(t.exponent - s.exponent).toNat - 1, by omega⟩
    refine hs ?_
    rw [hdigits, hk, Nat.pow_succ, ← Nat.mul_assoc, Nat.mul_mod_left]
  have hsame : s.exponent = t.exponent :=
    le_antisymm (hexponent t s ht h.symm) (hexponent s t hs h)
  have hdigits := digits_eq_of_value_eq h hsame.le
  rw [hsame, sub_self, Int.toNat_zero, Nat.pow_zero, Nat.mul_one] at hdigits
  cases s
  cases t
  exact congrArg₂ ScaledDigits.mk hdigits hsame

end ScaledDigits

namespace Binary64

/-! ### How close digits are -/

/-- A quotient of 53 binary digits is rounded by at most one part in `2 ^ 53`. -/
lemma two_pow_mul_dist_roundToQuanta_le {num den : Nat} (hden : 0 < den)
    (h : 2 ^ 52 * den ≤ num) : 2 ^ 53 * Nat.dist num (den * roundToQuanta num den) ≤ num := by
  have hquotient : 2 ^ 52 ≤ num / den := (Nat.le_div_iff_mul_le hden).mpr h
  have hpos : num / den ≠ 0 := by omega
  have hspacing : 2 ^ 52 * spacing (num / den) ≤ num / den := by
    rw [spacing, ← pow_add, Nat.add_sub_cancel' ((Nat.le_log2 hpos).mpr hquotient)]
    exact Nat.log2_self_le hpos
  have hnear : 2 * Nat.dist num (den * spacing (num / den) *
      roundQuotient .toEven num (den * spacing (num / den))) ≤ den * spacing (num / den) :=
    two_mul_dist_roundQuotient_le (Nat.mul_pos hden (spacing_pos _))
  rw [Nat.mul_assoc den, ← roundToQuanta_eq] at hnear
  calc 2 ^ 53 * Nat.dist num (den * roundToQuanta num den)
      = 2 ^ 52 * (2 * Nat.dist num (den * roundToQuanta num den)) := by ring
    _ ≤ 2 ^ 52 * (den * spacing (num / den)) := Nat.mul_le_mul_left _ hnear
    _ = den * (2 ^ 52 * spacing (num / den)) := Nat.mul_left_comm _ _ _
    _ ≤ den * (num / den) := Nat.mul_le_mul_left _ hspacing
    _ ≤ num := Nat.mul_div_le num den

namespace Magnitude

variable {m : Magnitude} {s : ScaledDigits} {tie : Tie}

/-- **How far digits are from the number that they are read as**: one part in `2 ^ 53`, unless the
number is one of the smallest. -/
lemma abs_sub_value_le (hnormal : 2 ^ 52 < m.quanta) (h : m.isReadFrom s = true) :
    2 ^ 53 * |s.value - m.value| ≤ s.value := by
  have hround := (isReadFrom_iff m s).mp h
  have hvalue := s.value_eq_div
  generalize s.toDecimal = d at hround hvalue
  have hlarge : 2 ^ 52 * d.denominator ≤ d.numerator * quantaPerUnit := by
    rw [Nat.mul_comm]
    by_contra hlt
    have hle := roundToQuanta_le d.denominator_pos (spacing_two_pow_dvd 52) (not_le.mp hlt).le
    rw [hround] at hle
    exact absurd hle (not_le.mpr hnormal)
  have hdist := two_pow_mul_dist_roundToQuanta_le d.denominator_pos hlarge
  rw [hround] at hdist
  have hunit : (0 : ℚ) < (d.denominator * quantaPerUnit : Nat) :=
    Nat.cast_pos.mpr (Nat.mul_pos d.denominator_pos quantaPerUnit_pos)
  have hscaled : (d.numerator : ℚ) / d.denominator =
      (d.numerator * quantaPerUnit : Nat) / (d.denominator * quantaPerUnit : Nat) := by
    rw [Nat.cast_mul, Nat.cast_mul, mul_div_mul_right _ _ cast_quantaPerUnit_pos.ne']
  rw [hvalue, value, abs_div_sub_div d.denominator_pos quantaPerUnit_pos, hscaled, ← mul_div_assoc,
    div_le_div_iff_of_pos_right hunit]
  exact_mod_cast hdist

/-! ### Decimals of fifteen digits -/

/-- The place of the fifteenth digit. -/
def fifteenthPlace (m : Magnitude) : Int := m.decimalScale - 15

/-- The magnitude in units of its fifteenth digit, rounded. -/
def roundedDigits (m : Magnitude) : Nat :=
  roundQuotient .awayFromZero (m.onGrid m.fifteenthPlace).1 (m.onGrid m.fifteenthPlace).2

lemma fifteenDigits_eq (m : Magnitude) :
    m.fifteenDigits = ScaledDigits.dropZeros 16 ⟨m.roundedDigits, m.fifteenthPlace⟩ := rfl

/-- A positive magnitude has fifteen digits in units of its fifteenth. -/
lemma value_bounds (h : 0 < m.quanta) :
    10 ^ 14 * (10 : ℚ) ^ m.fifteenthPlace ≤ m.value ∧
      m.value < 10 ^ 15 * (10 : ℚ) ^ m.fifteenthPlace := by
  obtain ⟨hlow, hhigh⟩ := decimalScale_bounds h
  have hfirst : m.decimalScale - 1 = (14 : Nat) + m.fifteenthPlace := by
    rw [fifteenthPlace]
    push_cast
    ring
  have hscale : m.decimalScale = (15 : Nat) + m.fifteenthPlace := by
    rw [fifteenthPlace]
    push_cast
    ring
  rw [hfirst, zpow_add₀ (by norm_num), zpow_natCast] at hlow
  rw [hscale, zpow_add₀ (by norm_num), zpow_natCast] at hhigh
  exact ⟨hlow, hhigh⟩

lemma onGrid_fifteenthPlace_bounds (h : 0 < m.quanta) :
    10 ^ 14 * (m.onGrid m.fifteenthPlace).2 ≤ (m.onGrid m.fifteenthPlace).1 ∧
      (m.onGrid m.fifteenthPlace).1 < 10 ^ 15 * (m.onGrid m.fifteenthPlace).2 :=
  onGrid_bounds h 14 (by rw [fifteenthPlace]; norm_num)

/-- There are fifteen rounded digits, or a power of ten. -/
lemma roundedDigits_bounds (h : 0 < m.quanta) :
    10 ^ 14 ≤ m.roundedDigits ∧ m.roundedDigits ≤ 10 ^ 15 := by
  have hden := m.onGrid_den_pos m.fifteenthPlace
  obtain ⟨hlow, hhigh⟩ := onGrid_fifteenthPlace_bounds h
  rw [Nat.mul_comm] at hlow hhigh
  exact ⟨le_roundQuotient hden hlow, roundQuotient_le hden hhigh.le⟩

/-- The rounded digits have no trailing zeros when these are dropped. -/
lemma isReduced_fifteenDigits (h : 0 < m.quanta) : m.fifteenDigits.IsReduced := by
  obtain ⟨hlow, hhigh⟩ := roundedDigits_bounds h
  have hpos : 0 < m.roundedDigits := lt_of_lt_of_le (by norm_num) hlow
  have hfuel : m.roundedDigits ≤ 10 ^ 16 := hhigh.trans (by norm_num)
  rw [fifteenDigits_eq]
  -- the digits themselves are not to be computed
  generalize m.roundedDigits = digits at hpos hfuel
  exact ScaledDigits.isReduced_dropZeros hpos hfuel

/-- **A decimal of fifteen digits is found again** by rounding the number that it is read as. -/
lemma value_fifteenDigits (hnormal : 2 ^ 52 < m.quanta) (hread : m.isReadFrom s = true)
    (hfew : s.digits < 10 ^ 15) : m.fifteenDigits.value = s.value := by
  have hpos : 0 < m.quanta := (Nat.zero_le _).trans_lt hnormal
  obtain ⟨hlow, hhigh⟩ := value_bounds hpos
  have hclose := abs_le.mp (le_div_iff₀' (by norm_num) |>.mpr (abs_sub_value_le hnormal hread))
  have hunit : (0 : ℚ) < 10 ^ m.fifteenthPlace := by positivity
  have hdigits : (s.digits : ℚ) ≤ 10 ^ 15 - 1 := by
    have hle : s.digits + 1 ≤ 10 ^ 15 := hfew
    have hcast : ((s.digits + 1 : Nat) : ℚ) ≤ ((10 ^ 15 : Nat) : ℚ) := Nat.cast_le.mpr hle
    push_cast at hcast
    linarith
  rw [fifteenDigits_eq, ScaledDigits.value_dropZeros]
  rcases lt_or_ge s.exponent m.fifteenthPlace with hfine | hcoarse
  · -- digits of a finer grid do not come up to the first digit of the number
    have hgrid : (10 : ℚ) ^ s.exponent ≤ 10 ^ m.fifteenthPlace / 10 := by
      rw [div_eq_mul_inv, ← zpow_sub_one₀ (by norm_num)]
      exact zpow_le_zpow_right₀ (by norm_num) (by omega)
    have hvalue : s.value ≤ (10 ^ 15 - 1) * (10 ^ m.fifteenthPlace / 10) :=
      mul_le_mul hdigits hgrid (by positivity) (by norm_num)
    generalize (10 : ℚ) ^ m.fifteenthPlace = unit at *
    linarith
  · -- digits of a coarser grid are a number of units, and the nearest one
    obtain ⟨k, hk⟩ : ∃ k : Nat, s.exponent = k + m.fifteenthPlace :=
      ⟨(s.exponent - m.fifteenthPlace).toNat, by omega⟩
    have hvalue : s.value = (s.digits * 10 ^ k : Nat) * (10 : ℚ) ^ m.fifteenthPlace := by
      rw [ScaledDigits.value, hk, zpow_add₀ (by norm_num), zpow_natCast, ← mul_assoc]
      push_cast
      rfl
    have hrounded : m.roundedDigits = s.digits * 10 ^ k := by
      refine roundQuotient_eq_of_abs_sub_lt (m.onGrid_den_pos _) ?_
      rw [onGrid_div, ← mul_div_cancel_right₀ ((s.digits * 10 ^ k : Nat) : ℚ) hunit.ne', ← hvalue,
        ← sub_div, abs_div, abs_of_pos hunit, div_lt_iff₀ hunit, abs_lt]
      generalize (10 : ℚ) ^ m.fifteenthPlace = unit at *
      constructor <;> linarith
    rw [hvalue, ScaledDigits.value, hrounded]

/-! ### The shortest digits -/

/-- If rounded digits read back, then some digits on their grid are found. -/
lemma exists_nearestOnGrid? {tie' : Tie} {grid : Int}
    (h : m.isReadFrom ⟨roundQuotient tie' (m.onGrid grid).1 (m.onGrid grid).2, grid⟩ = true) :
    (m.nearestOnGrid? tie grid).isSome = true := by
  rw [nearestOnGrid?]
  dsimp only
  rw [ScaledDigits.choose?]
  rcases rounded_onGrid tie' m grid with hbelow | habove
  · rw [← hbelow, h]
    split <;> first | rfl | contradiction
  · rw [← habove, h]
    split <;> first | rfl | contradiction

/-- On a grid that is not finer than that of so many digits there are not more digits. -/
lemma digits_le_of_nearestOnGrid? (hpos : 0 < m.quanta) {grid : Int} {count : Nat}
    (hgrid : m.decimalScale ≤ count + grid) (h : m.nearestOnGrid? tie grid = some s) :
    s.digits ≤ 10 ^ count := by
  have hden : (0 : ℚ) < (m.onGrid grid).2 := Nat.cast_pos.mpr (m.onGrid_den_pos grid)
  have hquotient : ((m.onGrid grid).1 : ℚ) / (m.onGrid grid).2 < 10 ^ count := by
    rw [onGrid_div, div_lt_iff₀ (by positivity), ← zpow_natCast, ← zpow_add₀ (by norm_num)]
    exact (decimalScale_bounds hpos).2.trans_le (zpow_le_zpow_right₀ (by norm_num) hgrid)
  have hbelow : (m.onGrid grid).1 / (m.onGrid grid).2 < 10 ^ count := by
    rw [div_lt_iff₀ hden] at hquotient
    rw [Nat.div_lt_iff_lt_mul (m.onGrid_den_pos grid)]
    exact_mod_cast hquotient
  rcases (of_nearestOnGrid? h).2 with rfl | rfl
  · exact hbelow.le
  · exact hbelow

/-- A positive magnitude is not read from zero. -/
lemma digits_pos_of_isReadFrom (hpos : 0 < m.quanta) (h : m.isReadFrom s = true) :
    0 < s.digits := by
  by_contra hzero
  have hpower : 0 < Nat.pow 10 (-s.exponent).toNat := Nat.pow_pos (by decide)
  have hround : roundToQuanta 0 (Nat.pow 10 (-s.exponent).toNat) = 0 := by
    have hself := roundToQuanta_mul_self hpower (dvd_zero (spacing 0))
    rwa [Nat.mul_zero] at hself
  rw [isReadFrom, decide_eq_true_iff, Nat.eq_zero_of_not_pos hzero, Nat.zero_mul, Nat.zero_mul,
    hround] at h
  exact hpos.ne h

/-- The shortest digits have no trailing zeros. -/
lemma isReduced_shortestDigits (tie : Tie) (hpos : 0 < m.quanta) :
    (m.shortestDigits tie).IsReduced := by
  rw [shortestDigits]
  dsimp only
  cases hfound : List.findSome? (m.nearestOnGrid? tie)
      ((List.range 17).map fun (length : Nat) => m.decimalScale - ((length : Int) + 1)) with
  | none =>
      have hden := m.onGrid_den_pos (m.decimalScale - 17)
      obtain ⟨hlow, hhigh⟩ := onGrid_bounds hpos 16 rfl
      rw [Nat.mul_comm] at hlow hhigh
      rw [Option.getD_none]
      -- the digits themselves are not to be computed
      generalize hdigits : roundQuotient tie (m.onGrid (m.decimalScale - 17)).1
        (m.onGrid (m.decimalScale - 17)).2 = digits
      have hone : 10 ^ 16 ≤ digits := hdigits ▸ le_roundQuotient hden hlow
      have hmost : digits ≤ 10 ^ 17 := hdigits ▸ roundQuotient_le hden hhigh.le
      exact ScaledDigits.isReduced_dropZeros ((Nat.pow_pos (by decide)).trans_le hone) hmost
  | some s =>
      obtain ⟨grid, hmem, hgrid⟩ := List.exists_of_findSome?_eq_some hfound
      obtain ⟨length, hlength, rfl⟩ := List.mem_map.mp hmem
      have hlt := List.mem_range.mp hlength
      exact ScaledDigits.isReduced_dropZeros
        (digits_pos_of_isReadFrom hpos (of_nearestOnGrid? hgrid).1)
        (digits_le_of_nearestOnGrid? hpos (by omega) hgrid)

/-- If the rounded digits read back, then the shortest ones are found on a grid that is not
finer. -/
lemma exists_shortestDigits (tie : Tie)
    (h : m.isReadFrom ⟨m.roundedDigits, m.fifteenthPlace⟩ = true) :
    ∃ (grid : Int) (found : ScaledDigits), m.fifteenthPlace ≤ grid ∧
      m.nearestOnGrid? tie grid = some found ∧ m.shortestDigits tie = found.dropZeros 17 := by
  generalize hgrids : ((List.range 17).map fun (length : Nat) =>
    m.decimalScale - ((length : Int) + 1)) = grids
  have hdescending : grids.Pairwise (· > ·) := by
    rw [← hgrids, List.pairwise_map]
    refine List.pairwise_lt_range.imp fun hlt => ?_
    omega
  have hmem : m.fifteenthPlace ∈ grids := by
    rw [← hgrids]
    exact List.mem_map.mpr ⟨14, by decide, by rw [fifteenthPlace]; norm_num⟩
  have hplace : (m.nearestOnGrid? tie m.fifteenthPlace).isSome = true := exists_nearestOnGrid? h
  have hsome : (grids.findSome? (m.nearestOnGrid? tie)).isSome = true :=
    List.findSome?_isSome_iff.mpr ⟨_, hmem, hplace⟩
  obtain ⟨found, hfound⟩ := Option.isSome_iff_exists.mp hsome
  obtain ⟨before, grid, after, rfl, hgrid, hnone⟩ := List.findSome?_eq_some_iff.mp hfound
  refine ⟨grid, found, ?_, hgrid, ?_⟩
  · -- the grids get finer, and nothing is found before this one
    rcases List.mem_append.mp hmem with hbefore | hbehind
    · rw [hnone _ hbefore] at hplace
      cases hplace
    · rcases List.mem_cons.mp hbehind with heq | hafter
      · exact heq.le
      · exact (List.rel_of_pairwise_cons (List.pairwise_append.mp hdescending).2.1 hafter).le
  · rw [shortestDigits]
    dsimp only
    rw [hgrids, hfound, Option.getD_some]

/-- **The shortest digits are the rounded ones**, if fifteen are enough. -/
theorem shortestDigits_eq_fifteenDigits (tie : Tie) (hnormal : 2 ^ 52 < m.quanta)
    (hread : m.isReadFrom s = true) (hfew : s.digits < 10 ^ 15) :
    m.shortestDigits tie = m.fifteenDigits := by
  have hpos : 0 < m.quanta := (Nat.zero_le _).trans_lt hnormal
  have hrounded : m.isReadFrom ⟨m.roundedDigits, m.fifteenthPlace⟩ = true := by
    rw [← isReadFrom_dropZeros m 16, ← fifteenDigits_eq,
      isReadFrom_congr (value_fifteenDigits hnormal hread hfew), hread]
  obtain ⟨grid, found, hgrid, hfound, hshort⟩ := exists_shortestDigits tie hrounded
  have hback := isReadFrom_shortestDigits tie hpos
  have hreduced := isReduced_shortestDigits tie hpos
  have hfound15 : found.digits ≤ 10 ^ 15 :=
    digits_le_of_nearestOnGrid? hpos (by rw [fifteenthPlace] at hgrid; omega) hfound
  have hshort15 : (m.shortestDigits tie).digits < 10 ^ 15 := by
    refine lt_of_le_of_ne ?_ fun heq => hreduced (by rw [heq]; norm_num)
    rw [hshort]
    exact (ScaledDigits.digits_dropZeros_le 17 found).trans hfound15
  exact hreduced.eq_of_value_eq (isReduced_fifteenDigits hpos)
    (value_fifteenDigits hnormal hback hshort15).symm

end Magnitude

end Binary64

end TableExplorer
