import Mathlib
import TableExplorer.Proofs.Binary64.Nearest
import TableExplorer.Proofs.Numeral.Digits

/-!
Whole numbers, hundredths and thousandths.  A whole number of 53 binary digits is a number of the
format, and its text with two decimals is read as its hundredths.  The number nearest to as many
thousandths is at most half as large.

* `Binary64.ofChars?_twoPlaces_whole`: **a whole number with two decimals** is read back.
* `Binary64.lt_of_thousandths`: **thousandths are less than as many units**, also in hundredths.
-/

namespace TableExplorer

/-! ### Whole numbers -/

namespace Binary64

variable {negative : Bool} {n : Nat} {m : Magnitude}

/-- One is a power of two of quanta, and so are a half, a quarter and so on. -/
lemma exists_quantaPerUnit_eq {k : Nat} (hk : k ≤ 1074) : ∃ e, quantaPerUnit = 2 ^ (e + k) := by
  unfold quantaPerUnit
  -- the power itself is too large to be computed
  generalize 1074 = n at hk ⊢
  exact ⟨n - k, by rw [Nat.sub_add_cancel hk, Nat.pow_eq]⟩

/-- A multiple of a power of two lies on its grid if the factor has 53 binary digits. -/
lemma spacing_mul_two_pow_dvd (h : n < 2 ^ 53) (e : Nat) : spacing (n * 2 ^ e) ∣ n * 2 ^ e := by
  have hlt : n * 2 ^ e < 2 ^ (53 + e) := by
    rw [pow_add]
    exact Nat.mul_lt_mul_of_pos_right h (Nat.two_pow_pos e)
  exact (spacing_dvd_of_lt hlt).trans (Nat.dvd_mul_left _ _)

/-- Whole numbers of 53 binary digits are numbers of the format. -/
lemma representable_units (h : n < 2 ^ 53) : Representable (n * quantaPerUnit) := by
  have hoverflow : 2 ^ 53 * quantaPerUnit < overflow := by decide +kernel
  have hlt : n * quantaPerUnit < 2 ^ 53 * quantaPerUnit :=
    Nat.mul_lt_mul_of_pos_right h quantaPerUnit_pos
  obtain ⟨e, he⟩ := exists_quantaPerUnit_eq (k := 1) (by decide)
  refine representable_iff.mpr ⟨hlt.trans hoverflow, ?_⟩
  rw [he]
  exact spacing_mul_two_pow_dvd h (e + 1)

/-- The number nearest to thousandths is at most half as large as as many units. -/
lemma two_mul_roundToQuanta_thousandths_le (h : n < 2 ^ 53) :
    2 * roundToQuanta (n * quantaPerUnit) 1000 ≤ n * quantaPerUnit := by
  obtain ⟨e, he⟩ := exists_quantaPerUnit_eq (k := 1) (by decide)
  have hhalves : n * quantaPerUnit = 2 * (n * 2 ^ e) := by
    rw [he, pow_succ]
    ring
  rw [hhalves]
  refine Nat.mul_le_mul_left 2 (roundToQuanta_le (by decide) (spacing_mul_two_pow_dvd h e) ?_)
  exact Nat.mul_le_mul_right _ (by decide)

/-- The number nearest to a whole number of 53 binary digits is that number. -/
lemma ofRatio_whole (negative : Bool) (h : n < 2 ^ 53) :
    ofRatio negative n 1 = .finite negative ⟨n * quantaPerUnit, representable_units h⟩ := by
  have hround : roundToQuanta (n * quantaPerUnit) 1 = n * quantaPerUnit := by
    have hself :=
      roundToQuanta_mul_self Nat.one_pos (representable_iff.mp (representable_units h)).2
    rwa [Nat.one_mul] at hself
  rw [ofRatio, hround, ofQuanta, dif_pos (representable_units h)]

/-- A whole number with two decimals is read as its hundredths. -/
lemma ofChars?_twoPlaces_whole (negative : Bool) (h : n < 2 ^ 53) :
    Decimal.ofChars? (ofRatio negative n 1).twoPlaces.toList = some ⟨negative, n * 100, -2⟩ := by
  have hhundredths : Magnitude.hundredths .toEven ⟨n * quantaPerUnit, representable_units h⟩ =
      n * 100 := by
    rw [Magnitude.hundredths, Nat.mul_right_comm, Nat.mul_comm]
    exact roundQuotient_mul_self quantaPerUnit_pos
  rw [ofRatio_whole negative h, twoPlaces, String.toList_append, ofChars?_twoPlaces, hhundredths]

end Binary64

namespace Decimal

variable (negative : Bool) (n : Nat)

lemma value_whole : value ⟨negative, n, 0⟩ = signed negative n := by
  rw [value, zpow_zero, mul_one]

lemma value_hundredths : value ⟨negative, n * 100, -2⟩ = signed negative n := by
  have hpower : (10 : ℚ) ^ (-2 : Int) = 1 / 100 := by norm_num
  rw [value, hpower]
  congr 1
  push_cast
  ring

lemma value_thousandths : 1000 * value ⟨negative, n, -3⟩ = signed negative n := by
  have hpower : (10 : ℚ) ^ (-3 : Int) = 1 / 1000 := by norm_num
  rw [value, hpower, signed, signed]
  split
  · ring
  · ring

lemma toBinary64_whole : toBinary64 ⟨negative, n, 0⟩ = .ofRatio negative n 1 := by
  have hnumerator : numerator ⟨negative, n, 0⟩ = n := Nat.mul_one n
  have hdenominator : denominator ⟨negative, n, 0⟩ = 1 := rfl
  rw [toBinary64_eq_ofRatio, hnumerator, hdenominator]

lemma toBinary64_hundredths : toBinary64 ⟨negative, n * 100, -2⟩ = .ofRatio negative n 1 := by
  have hnumerator : numerator ⟨negative, n * 100, -2⟩ = n * 100 := Nat.mul_one (n * 100)
  have hdenominator : denominator ⟨negative, n * 100, -2⟩ = 1 * 100 := rfl
  rw [toBinary64_eq_ofRatio, hnumerator, hdenominator, Binary64.ofRatio, Binary64.ofRatio,
    Nat.mul_right_comm, Binary64.roundToQuanta_mul_right (by decide)]

lemma toBinary64_thousandths : toBinary64 ⟨negative, n, -3⟩ = .ofRatio negative n 1000 := by
  have hnumerator : numerator ⟨negative, n, -3⟩ = n := Nat.mul_one n
  have hdenominator : denominator ⟨negative, n, -3⟩ = 1000 := rfl
  rw [toBinary64_eq_ofRatio, hnumerator, hdenominator]

end Decimal

/-! ### Thousandths -/

namespace Binary64

variable {negative : Bool} {n : Nat} {m : Magnitude}

/-- A number whose text has a point is not zero. -/
lemma quanta_ne_zero_of_point (h : '.' ∈ (toText (.finite negative m)).toList) : m.quanta ≠ 0 := by
  intro hzero
  rw [toText, if_pos hzero] at h
  cases negative <;> revert h <;> decide

/-- The number nearest to thousandths is smaller than as many units, and so are its hundredths. -/
lemma lt_of_thousandths {tie : Tie} (h : n < 2 ^ 53) (hzero : m.quanta ≠ 0)
    (hm : Decimal.toBinary64 ⟨negative, n, -3⟩ = .finite negative m) :
    m.quanta < n * quantaPerUnit ∧ m.hundredths tie < n * 100 := by
  have hquanta : m.quanta = roundToQuanta (n * quantaPerUnit) 1000 := by
    rw [Decimal.toBinary64_thousandths] at hm
    exact (ofRatio_eq_finite_iff.mp hm).2.symm
  have hhalf : 2 * m.quanta ≤ n * quantaPerUnit := by
    rw [hquanta]
    exact two_mul_roundToQuanta_thousandths_le h
  have hn : n ≠ 0 := by
    rintro rfl
    rw [Nat.zero_mul] at hhalf
    omega
  have hhundredths : m.hundredths tie ≤ n * 50 := by
    refine roundQuotient_le quantaPerUnit_pos ?_
    calc m.quanta * 100 = 2 * m.quanta * 50 := by ring
      _ ≤ n * quantaPerUnit * 50 := Nat.mul_le_mul_right 50 hhalf
      _ = quantaPerUnit * (n * 50) := by rw [Nat.mul_comm n, Nat.mul_assoc]
  constructor
  · omega
  · omega

end Binary64

end TableExplorer
