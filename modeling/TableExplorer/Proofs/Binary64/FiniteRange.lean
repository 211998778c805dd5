import TableExplorer.Proofs.Amount.RoundTrip

/-!
The range of the finite numbers.  Half way between the largest number and the first power of two
beyond the format, rounding goes to the latter, as its significand is the even one; so the number
nearest to a quotient is finite if and only if the quotient is less than that.

* `Binary64.roundToQuanta_lt_overflow_iff`: **which quotients are rounded below the overflow**.
* `Decimal.InRange`, `Decimal.isFinite_toBinary64_iff`: **which decimals are read as finite
  numbers**.
* `Decimal.toBinary64_eq_iff`: what a decimal is read as, as **the nearest number of its sign**.
-/

namespace TableExplorer

namespace Binary64

variable {b : Bool} {num den : Nat} {x y : Binary64} {q : ℚ}

/-- Half way between the largest number of the format and the first power of two beyond it, in
units. -/
def rangeEnd : Nat := (2 ^ 54 - 1) * 2 ^ 970

/-- A quotient in quanta is rounded below the overflow if and only if it is less than the half way
to it from the largest number. -/
lemma roundToQuanta_lt_overflow_iff (hden : 0 < den) :
    roundToQuanta num den < overflow ↔ num < den * (quantaPerUnit * rangeEnd) := by
  have hspacing : spacing (quantaPerUnit * largestUnits) ∣ quantaPerUnit * largestUnits := by
    decide +kernel
  have hodd : ¬2 * spacing (quantaPerUnit * largestUnits) ∣ quantaPerUnit * largestUnits := by
    decide +kernel
  have hhalf : 2 * (quantaPerUnit * rangeEnd) = quantaPerUnit * largestUnits + overflow := by
    decide +kernel
  have hbelow : quantaPerUnit * largestUnits < overflow := by decide +kernel
  have hfound := spacing_dvd_roundToQuanta hden num
  have hlargest : roundToQuanta num den < overflow →
      roundToQuanta num den ≤ quantaPerUnit * largestUnits := fun h =>
    quanta_le_largest ⟨_, representable_iff.mpr ⟨h, hfound⟩⟩
  generalize quantaPerUnit * largestUnits = largest at hspacing hodd hhalf hbelow hlargest
  generalize quantaPerUnit * rangeEnd = middle at hhalf ⊢
  have hmiddle : 2 * (den * middle) = den * largest + den * overflow := by
    rw [← Nat.mul_add, ← hhalf, Nat.mul_left_comm]
  constructor
  · intro hround
    by_contra hge
    have hnear := dist_roundToQuanta_le hden spacing_overflow_dvd num
    have hle := Nat.mul_le_mul_left den (hlargest hround)
    have hinside : num < den * overflow := by
      by_contra houtside
      exact absurd (le_roundToQuanta hden spacing_overflow_dvd (not_lt.mp houtside))
        (not_le.mpr hround)
    -- the overflow is as near as what is rounded to, which therefore has to be even
    unfold Nat.dist at hnear
    have htie : den * roundToQuanta num den = den * largest := by omega
    have heq : roundToQuanta num den = largest := Nat.eq_of_mul_eq_mul_left hden htie
    have heven : 2 * spacing (roundToQuanta num den) ∣ roundToQuanta num den :=
      two_mul_spacing_dvd_roundToQuanta hden spacing_overflow_dvd hround.ne'
        (by unfold Nat.dist; omega)
    rw [heq] at heven
    exact hodd heven
  · intro hlt
    by_contra hge
    have hover := Nat.mul_le_mul_left den (not_lt.mp hge)
    have hnear := dist_roundToQuanta_le hden hspacing num
    have hinside : den * largest < num := by
      by_contra houtside
      exact hge ((roundToQuanta_le hden hspacing (not_lt.mp houtside)).trans_lt hbelow)
    unfold Nat.dist at hnear
    omega

/-- **The number nearest to a quotient is finite** if and only if the quotient is less than the end
of the range. -/
lemma isFinite_ofRatio_iff (hden : 0 < den) :
    (ofRatio b num den).isFinite = true ↔ num < rangeEnd * den := by
  have hscale : num * quantaPerUnit < den * (quantaPerUnit * rangeEnd) ↔ num < rangeEnd * den := by
    rw [Nat.mul_left_comm, Nat.mul_comm num, Nat.mul_lt_mul_left quantaPerUnit_pos,
      Nat.mul_comm den]
  rw [← hscale, ← roundToQuanta_lt_overflow_iff hden, ofRatio, ofQuanta]
  split
  · rename_i h
    exact iff_of_true rfl (representable_iff.mp h).1
  · rename_i h
    refine iff_of_false Bool.false_ne_true fun hlt => h ?_
    exact representable_iff.mpr ⟨hlt, spacing_dvd_roundToQuanta hden _⟩

/-- The number nearest to a quotient has the sign that it is given. -/
lemma isNegative_ofRatio (b : Bool) (num den : Nat) : (ofRatio b num den).isNegative = b := by
  rw [ofRatio, ofQuanta]
  split <;> rfl

/-- Finite numbers of one value and one sign are the same, zero included. -/
lemma eq_of_value_eq (hx : x.isFinite = true) (hy : y.isFinite = true) (hvalue : x.value = y.value)
    (hsign : x.isNegative = y.isNegative) : x = y := by
  obtain ⟨a, m, rfl⟩ := exists_of_isFinite hx
  obtain ⟨b, n, rfl⟩ := exists_of_isFinite hy
  obtain rfl : a = b := hsign
  have hquanta : m.quanta = n.quanta := by
    rw [value_finite, value_finite, div_left_inj' cast_quantaPerUnit_pos.ne', Int.cast_inj]
      at hvalue
    cases a <;> simpa [signedQuanta] using hvalue
  obtain ⟨k, hk⟩ := m
  obtain ⟨j, hj⟩ := n
  obtain rfl : k = j := hquanta
  rfl

end Binary64

namespace Decimal

open Binary64 (IsNearest)

variable {d : Decimal} {x : Binary64}

/-- The decimal lies in the range of the finite numbers: it is nearer to the largest of them, or the
least, than to the power of two beyond. -/
def InRange (d : Decimal) : Prop := |d.value| < Binary64.rangeEnd

/-- **A decimal is read as a finite number if and only if it is in their range.** -/
theorem isFinite_toBinary64_iff : d.toBinary64.isFinite = true ↔ d.InRange := by
  have hpos : (0 : ℚ) < d.denominator := Nat.cast_pos.mpr d.denominator_pos
  have hquotient : (0 : ℚ) ≤ d.numerator / d.denominator :=
    div_nonneg (Nat.cast_nonneg _) hpos.le
  rw [toBinary64_eq_ofRatio, Binary64.isFinite_ofRatio_iff d.denominator_pos, InRange, value_eq,
    abs_signed, abs_of_nonneg hquotient, div_lt_iff₀ hpos]
  exact_mod_cast Iff.rfl

/-- **What a decimal in range is read as** is the nearest number that has its sign. -/
lemma toBinary64_eq_iff (hrange : d.InRange) :
    d.toBinary64 = x ↔ IsNearest d.value x ∧ x.isNegative = d.negative := by
  have hnearest := isNearest_toBinary64 (isFinite_toBinary64_iff.mpr hrange)
  have hsign : d.toBinary64.isNegative = d.negative := by
    rw [toBinary64_eq_ofRatio, Binary64.isNegative_ofRatio]
  constructor
  · rintro rfl
    exact ⟨hnearest, hsign⟩
  · rintro ⟨hx, hminus⟩
    exact Binary64.eq_of_value_eq hnearest.isFinite hx.isFinite (hnearest.value_unique hx)
      (hsign.trans hminus.symm)

end Decimal

end TableExplorer
