import Mathlib
import TableExplorer.Binary64.Arithmetic
import TableExplorer.Numeral.Decimal
import TableExplorer.Proofs.Binary64.Grid

/-!
The number nearest to a rational number.  `IsNearest q x` says that no number of the format is
nearer to `q` than `x`, and that `x` has an even significand if another one is as near.  Two numbers
with even significands have a third one between them, so there is only one nearest number, up to the
sign of zero.

* `Binary64.isNearest_ofRatio`: **the number found for a quotient is the nearest**.
* `Binary64.IsNearest.value_unique`: **there is only one nearest number**.
* `Decimal.toBinary64_eq_ofRatio`: a decimal is read as the quotient of two whole numbers, however
  far its digits lie from the point; `Decimal.isNearest_toBinary64`: **it is read as the nearest
  number**.
-/

namespace TableExplorer

/-- How far two fractions are apart. -/
lemma abs_div_sub_div {den unit : Nat} (hden : 0 < den) (hunit : 0 < unit) (num k : Nat) :
    |(num : ℚ) / den - (k : ℚ) / unit| =
      (Nat.dist (num * unit) (den * k) : ℚ) / (den * unit : Nat) := by
  have hd : (0 : ℚ) < den := Nat.cast_pos.mpr hden
  have hu : (0 : ℚ) < unit := Nat.cast_pos.mpr hunit
  have hdiff : (num : ℚ) / den - (k : ℚ) / unit =
      ((num * unit : Nat) - (den * k : Nat)) / (den * unit : Nat) := by
    rw [div_sub_div _ _ hd.ne' hu.ne']
    push_cast
    rfl
  rw [hdiff, abs_div, Nat.abs_cast]
  congr 1
  rcases le_total (num * unit) (den * k) with h | h
  · rw [abs_sub_comm, abs_of_nonneg (sub_nonneg.mpr (Nat.cast_le.mpr h)),
      Nat.dist_eq_sub_of_le h, Nat.cast_sub h]
  · rw [abs_of_nonneg (sub_nonneg.mpr (Nat.cast_le.mpr h)), Nat.dist_eq_sub_of_le_right h,
      Nat.cast_sub h]

/-- Of two fractions the one whose numerator is nearer is nearer. -/
lemma abs_sub_le_abs_sub_iff {den unit : Nat} (hden : 0 < den) (hunit : 0 < unit)
    (num k j : Nat) :
    |(num : ℚ) / den - (k : ℚ) / unit| ≤ |(num : ℚ) / den - (j : ℚ) / unit| ↔
      Nat.dist (num * unit) (den * k) ≤ Nat.dist (num * unit) (den * j) := by
  have hpos : (0 : ℚ) < (den * unit : Nat) := Nat.cast_pos.mpr (Nat.mul_pos hden hunit)
  rw [abs_div_sub_div hden hunit, abs_div_sub_div hden hunit, div_le_div_iff_of_pos_right hpos,
    Nat.cast_le]

/-- The number with this sign. -/
def signed (negative : Bool) (q : ℚ) : ℚ := if negative then -q else q

lemma signed_not (negative : Bool) (q : ℚ) : signed (!negative) q = -signed negative q := by
  cases negative
  · rfl
  · exact (neg_neg q).symm

lemma abs_signed (negative : Bool) (q : ℚ) : |signed negative q| = |q| := by
  cases negative
  · rfl
  · exact abs_neg q

namespace Binary64

/-! ### Values -/

/-- The rational number that a finite number is. -/
def value : Binary64 → ℚ
  | .finite negative m => signed negative (m.quanta / quantaPerUnit)
  | _ => 0

/-- The number has a minus; one of the two zeros has one. -/
def isNegative : Binary64 → Bool
  | .finite negative _ => negative
  | .infinite negative => negative
  | .nan => false

/-- The last binary digit of the significand is zero. -/
def HasEvenSignificand : Binary64 → Prop
  | .finite _ m => 2 * spacing m.quanta ∣ m.quanta
  | _ => False

/-- No finite number is nearer to `q`, and `x` has an even significand if another one is as near. -/
structure IsNearest (q : ℚ) (x : Binary64) : Prop where
  isFinite : x.isFinite = true
  nearest : ∀ y : Binary64, y.isFinite = true → |q - x.value| ≤ |q - y.value|
  even : ∀ y : Binary64, y.isFinite = true → y.value ≠ x.value →
    |q - y.value| = |q - x.value| → x.HasEvenSignificand

variable {b : Bool} {m n : Magnitude} {x y : Binary64} {q : ℚ} {num den k : Nat}

lemma cast_quantaPerUnit_pos : (0 : ℚ) < quantaPerUnit := Nat.cast_pos.mpr quantaPerUnit_pos

/-- A finite number has a sign and a magnitude. -/
lemma exists_of_isFinite (h : x.isFinite = true) : ∃ b m, x = .finite b m := by
  cases x with
  | finite b m => exact ⟨b, m, rfl⟩
  | infinite b => cases h
  | nan => cases h

/-- A finite number is its signed number of quanta. -/
lemma value_finite (b : Bool) (m : Magnitude) :
    value (.finite b m) = (signedQuanta b m : ℚ) / quantaPerUnit := by
  cases b
  · rfl
  · rw [value, signed, if_pos rfl, signedQuanta, if_pos rfl, Int.cast_neg, neg_div]
    rfl

/-- Finite numbers are compared as the rational numbers they are. -/
lemma compare?_eq (hx : x.isFinite = true) (hy : y.isFinite = true) :
    x.compare? y = some (compare x.value y.value) := by
  obtain ⟨a, m, rfl⟩ := exists_of_isFinite hx
  obtain ⟨b, n, rfl⟩ := exists_of_isFinite hy
  have hpos := cast_quantaPerUnit_pos
  have hcompare : compare (signedQuanta a m) (signedQuanta b n) =
      compare (value (.finite a m)) (value (.finite b n)) := by
    rw [value_finite, value_finite]
    rcases lt_trichotomy (signedQuanta a m) (signedQuanta b n) with h | h | h
    · rw [compare_lt_iff_lt.mpr h, compare_lt_iff_lt.mpr]
      exact div_lt_div_of_pos_right (Int.cast_lt.mpr h) hpos
    · rw [h, compare_eq_iff_eq.mpr rfl, compare_eq_iff_eq.mpr rfl]
    · rw [compare_gt_iff_gt.mpr h, compare_gt_iff_gt.mpr]
      exact div_lt_div_of_pos_right (Int.cast_lt.mpr h) hpos
  rw [← hcompare]
  rfl

lemma value_neg (x : Binary64) : (-x).value = -x.value := by
  cases x with
  | finite b m => exact signed_not b _
  | infinite b => exact neg_zero.symm
  | nan => exact neg_zero.symm

lemma isFinite_neg (x : Binary64) : (-x).isFinite = x.isFinite := by
  cases x <;> rfl

lemma hasEvenSignificand_neg (x : Binary64) : (-x).HasEvenSignificand ↔ x.HasEvenSignificand := by
  cases x <;> exact Iff.rfl

lemma ofRatio_not (b : Bool) (num den : Nat) : ofRatio (!b) num den = -ofRatio b num den := by
  unfold ofRatio ofQuanta
  split <;> rfl

/-- A quotient is read as a finite number if it is rounded to its magnitude. -/
lemma ofRatio_eq_finite_iff {negative : Bool} :
    ofRatio b num den = .finite negative m ↔
      b = negative ∧ roundToQuanta (num * quantaPerUnit) den = m.quanta := by
  rw [ofRatio, ofQuanta]
  constructor
  · intro h
    split at h
    · obtain ⟨hsign, hmagnitude⟩ := finite.inj h
      exact ⟨hsign, congrArg Magnitude.quanta hmagnitude⟩
    · cases h
  · rintro ⟨rfl, h⟩
    rw [h, dif_pos m.representable]

/-- A finite number that is not negative is its magnitude. -/
lemma value_of_nonneg (h : 0 ≤ value (.finite b m)) :
    value (.finite b m) = m.quanta / quantaPerUnit := by
  cases b with
  | false => rfl
  | true =>
      have hmagnitude : (0 : ℚ) ≤ m.quanta / quantaPerUnit :=
        div_nonneg (Nat.cast_nonneg _) cast_quantaPerUnit_pos.le
      rw [value, signed, if_pos rfl] at h ⊢
      linarith

/-! ### The nearest number -/

/-- The opposite number is nearest to the opposite. -/
lemma IsNearest.neg (h : IsNearest q x) : IsNearest (-q) (-x) := by
  have hdist : ∀ y : Binary64, |-q - y.value| = |q - (-y).value| := by
    intro y
    rw [value_neg, ← abs_neg]
    congr 1
    ring
  have hneg : ∀ y : Binary64, - -y = y := by
    intro y
    cases y with
    | finite b m => exact congrArg (Binary64.finite · m) (Bool.not_not b)
    | infinite b => exact congrArg Binary64.infinite (Bool.not_not b)
    | nan => rfl
  refine ⟨(isFinite_neg x).trans h.isFinite, fun y hy => ?_, fun y hy hne heq => ?_⟩
  · rw [hdist, hdist, hneg]
    exact h.nearest (-y) ((isFinite_neg y).trans hy)
  · rw [hdist, hdist, hneg] at heq
    refine (hasEvenSignificand_neg x).mpr (h.even (-y) ((isFinite_neg y).trans hy) ?_ heq)
    rw [value_neg] at hne ⊢
    exact fun hv => hne (neg_eq_iff_eq_neg.mp hv)

/-- For every finite number there is one that is not negative and not farther from `q`. -/
lemma exists_quanta_near (hq : 0 ≤ q) (hy : y.isFinite = true) :
    ∃ k : Nat, spacing k ∣ k ∧ |q - k / quantaPerUnit| ≤ |q - y.value| ∧
      (|q - y.value| ≤ |q - k / quantaPerUnit| → y.value = k / quantaPerUnit) := by
  obtain ⟨b, n, rfl⟩ := exists_of_isFinite hy
  rcases le_or_gt 0 (value (.finite b n)) with h | h
  · refine ⟨n.quanta, (representable_iff.mp n.representable).2, ?_, fun _ => value_of_nonneg h⟩
    rw [value_of_nonneg h]
  · -- zero lies between them
    have hfar : |q - 0| < |q - value (.finite b n)| := by
      rw [sub_zero, abs_of_nonneg hq, abs_of_pos (by linarith)]
      linarith
    refine ⟨0, Nat.dvd_zero _, ?_, fun hle => ?_⟩
    · rw [Nat.cast_zero, zero_div]
      exact hfar.le
    · rw [Nat.cast_zero, zero_div] at hle
      exact absurd hle (not_le.mpr hfar)

/-- The positive number found for a quotient is the nearest. -/
lemma isNearest_ofRatio_false (hden : 0 < den) (h : (ofRatio false num den).isFinite = true) :
    IsNearest (num / den) (ofRatio false num den) := by
  have hrepresentable : Representable (roundToQuanta (num * quantaPerUnit) den) := by
    by_contra hcontra
    rw [ofRatio, ofQuanta, dif_neg hcontra] at h
    cases h
  have hfound : ofRatio false num den = .finite false ⟨_, hrepresentable⟩ := by
    rw [ofRatio, ofQuanta, dif_pos hrepresentable]
  have hvalue : (ofRatio false num den).value =
      (roundToQuanta (num * quantaPerUnit) den : Nat) / (quantaPerUnit : Nat) := by
    rw [hfound]
    rfl
  have hq : (0 : ℚ) ≤ num / den := div_nonneg (Nat.cast_nonneg _) (Nat.cast_nonneg _)
  have hnearest : ∀ k, spacing k ∣ k →
      |(num : ℚ) / den - (ofRatio false num den).value| ≤
        |(num : ℚ) / den - k / quantaPerUnit| := by
    intro k hk
    rw [hvalue, abs_sub_le_abs_sub_iff hden quantaPerUnit_pos]
    exact dist_roundToQuanta_le hden hk _
  refine ⟨h, fun y hy => ?_, fun y hy hne heq => ?_⟩
  · obtain ⟨k, hk, hle, -⟩ := exists_quanta_near hq hy
    exact (hnearest k hk).trans hle
  · rw [hfound]
    obtain ⟨k, hk, hle, hsame⟩ := exists_quanta_near hq hy
    have hyk : y.value = k / quantaPerUnit := hsame (heq.trans_le (hnearest k hk))
    rw [heq, hvalue, abs_sub_le_abs_sub_iff hden quantaPerUnit_pos] at hle
    have hother : k ≠ roundToQuanta (num * quantaPerUnit) den := by
      intro heqk
      exact hne (hyk.trans (heqk ▸ hvalue.symm))
    exact two_mul_spacing_dvd_roundToQuanta hden hk hother hle

/-- **The number found for a quotient is the nearest**, if it is finite. -/
lemma isNearest_ofRatio (hden : 0 < den) (h : (ofRatio b num den).isFinite = true) :
    IsNearest (signed b (num / den)) (ofRatio b num den) := by
  cases b with
  | false => exact isNearest_ofRatio_false hden h
  | true =>
      rw [← Bool.not_false, ofRatio_not, isFinite_neg] at h
      rw [← Bool.not_false, ofRatio_not, signed_not]
      exact (isNearest_ofRatio_false hden h).neg

/-! ### Uniqueness -/

/-- Between two numbers with even significands there is a third. -/
lemma exists_quanta_between {m n : Nat} (hn : Representable n) (hm2 : 2 * spacing m ∣ m)
    (hn2 : 2 * spacing n ∣ n) (h : m < n) : ∃ k, Representable k ∧ m < k ∧ k < n := by
  have hm1 : spacing m ∣ m := (Nat.dvd_mul_left _ 2).trans hm2
  have hstep := add_spacing_le hm1 ((Nat.dvd_mul_left _ 2).trans hn2) h
  have hne : m + spacing m ≠ n := by
    intro heq
    -- the spacing itself would be an even multiple of itself
    have hdvd : 2 * spacing m ∣ m + spacing m :=
      heq ▸ (Nat.mul_dvd_mul_left 2 (spacing_dvd_spacing h.le)).trans hn2
    have hself := Nat.le_of_dvd (spacing_pos m) ((Nat.dvd_add_right hm2).mp hdvd)
    have hpos := spacing_pos m
    omega
  have hlt : m + spacing m < n := lt_of_le_of_ne hstep hne
  have hpos := spacing_pos m
  refine ⟨m + spacing m, representable_iff.mpr ⟨hlt.trans (representable_iff.mp hn).1, ?_⟩,
    by omega, hlt⟩
  obtain ⟨j, hj⟩ := hm1
  have hbound : m + spacing m ≤ 2 ^ 53 * spacing m := by
    have hj' : j < 2 ^ 53 := by
      refine Nat.lt_of_mul_lt_mul_left (a := spacing m) ?_
      rw [← hj, Nat.mul_comm]
      exact lt_mul_spacing m
    calc m + spacing m = spacing m * (j + 1) := by rw [Nat.mul_succ, ← hj]
      _ ≤ spacing m * 2 ^ 53 := Nat.mul_le_mul_left _ hj'
      _ = 2 ^ 53 * spacing m := Nat.mul_comm _ _
  rcases hbound.lt_or_eq with hlt' | heq'
  · refine (spacing_dvd_of_lt (e := m.log2 - 52) ?_).trans (Nat.dvd_add ⟨j, hj⟩ dvd_rfl)
    rwa [pow_add]
  · rw [heq', Nat.mul_comm]
    exact spacing_spacing_mul_dvd _ _

/-- Between two numbers with even significands there is a third. -/
lemma exists_value_between (hx : x.isFinite = true) (hy : y.isFinite = true)
    (hx2 : x.HasEvenSignificand) (hy2 : y.HasEvenSignificand) (h : x.value < y.value) :
    ∃ z : Binary64, z.isFinite = true ∧ x.value < z.value ∧ z.value < y.value := by
  have hnonneg : ∀ x y : Binary64, x.isFinite = true → y.isFinite = true → x.HasEvenSignificand →
      y.HasEvenSignificand → 0 ≤ x.value → x.value < y.value →
      ∃ z : Binary64, z.isFinite = true ∧ x.value < z.value ∧ z.value < y.value := by
    intro x y hx hy hx2 hy2 h0 h
    obtain ⟨a, m, rfl⟩ := exists_of_isFinite hx
    obtain ⟨b, n, rfl⟩ := exists_of_isFinite hy
    have hpos := cast_quantaPerUnit_pos
    have h1 := h0.trans h.le
    rw [value_of_nonneg h0, value_of_nonneg h1] at h ⊢
    rw [div_lt_div_iff_of_pos_right hpos, Nat.cast_lt] at h
    obtain ⟨k, hk, hmk, hkn⟩ := exists_quanta_between n.representable hx2 hy2 h
    exact ⟨.finite false ⟨k, hk⟩, rfl, div_lt_div_of_pos_right (Nat.cast_lt.mpr hmk) hpos,
      div_lt_div_of_pos_right (Nat.cast_lt.mpr hkn) hpos⟩
  rcases le_or_gt 0 x.value with h0 | h0
  · exact hnonneg x y hx hy hx2 hy2 h0 h
  rcases le_or_gt y.value 0 with h1 | h1
  · obtain ⟨z, hz, hyz, hzx⟩ := hnonneg (-y) (-x) ((isFinite_neg y).trans hy)
      ((isFinite_neg x).trans hx) ((hasEvenSignificand_neg y).mpr hy2)
      ((hasEvenSignificand_neg x).mpr hx2) (by rw [value_neg]; linarith)
      (by rw [value_neg, value_neg]; linarith)
    rw [value_neg] at hyz hzx
    exact ⟨-z, (isFinite_neg z).trans hz, by rw [value_neg]; linarith, by rw [value_neg]; linarith⟩
  · have hzero : zero.value = 0 := by
      rw [zero, value, Magnitude.zero, signed, if_neg Bool.false_ne_true, Nat.cast_zero, zero_div]
    exact ⟨zero, rfl, hzero ▸ h0, hzero ▸ h1⟩

/-- **There is only one nearest number**, up to the sign of zero. -/
lemma IsNearest.value_unique (hx : IsNearest q x) (hy : IsNearest q y) : x.value = y.value := by
  have hle : ∀ x y : Binary64, IsNearest q x → IsNearest q y → ¬x.value < y.value := by
    intro x y hx hy hlt
    have hdist : |q - y.value| = |q - x.value| :=
      le_antisymm (hy.nearest x hx.isFinite) (hx.nearest y hy.isFinite)
    obtain ⟨z, hz, hxz, hzy⟩ := exists_value_between hx.isFinite hy.isFinite
      (hx.even y hy.isFinite hlt.ne' hdist) (hy.even x hx.isFinite hlt.ne hdist.symm) hlt
    -- `q` is half way between the two, so the third is nearer
    have hmiddle : q - x.value = y.value - q := by
      rcases abs_eq_abs.mp hdist with h | h <;> linarith
    have hnearest := hx.nearest z hz
    rw [hmiddle, abs_of_nonneg (by linarith)] at hnearest
    rcases le_or_gt z.value q with h | h
    · rw [abs_of_nonneg (by linarith)] at hnearest
      linarith
    · rw [abs_of_neg (by linarith)] at hnearest
      linarith
  exact le_antisymm (not_lt.mp (hle y x hy hx)) (not_lt.mp (hle x y hx hy))

end Binary64

/-! ### Decimals -/

namespace Decimal

open Binary64 (IsNearest quantaPerUnit quantaPerUnit_pos)

/-- The rational number that a decimal denotes. -/
def value (d : Decimal) : ℚ := signed d.negative (d.digits * (10 : ℚ) ^ d.exponent)

/-- The numerator of a decimal without its sign. -/
def numerator (d : Decimal) : Nat := d.digits * Nat.pow 10 d.exponent.toNat

/-- The denominator of a decimal. -/
def denominator (d : Decimal) : Nat := Nat.pow 10 (-d.exponent).toNat

variable {n : Nat} {d : Decimal}

lemma denominator_pos (d : Decimal) : 0 < d.denominator := Nat.pow_pos (by decide)

/-- A decimal is the quotient of its numerator and its denominator. -/
lemma value_eq (d : Decimal) : d.value = signed d.negative (d.numerator / d.denominator) := by
  rw [value, numerator, denominator, Nat.pow_eq, Nat.pow_eq]
  congr 1
  push_cast
  rcases le_total 0 d.exponent with h | h
  · have hzero : (-d.exponent).toNat = 0 := by omega
    rw [hzero, pow_zero, div_one, ← zpow_natCast, Int.toNat_of_nonneg h]
  · have hzero : d.exponent.toNat = 0 := by omega
    rw [hzero, pow_zero, mul_one, div_eq_mul_inv, ← zpow_natCast, ← zpow_neg,
      Int.toNat_of_nonneg (by omega), neg_neg]

/-- A number has one decimal digit at least. -/
lemma digitCount_pos (n : Nat) : 0 < digitCount n := Nat.length_toDigits_pos

/-- A number is less than the power of ten of its digits. -/
lemma lt_pow_digitCount (n : Nat) : n < 10 ^ digitCount n :=
  (Nat.length_toDigits_le_iff (by decide) (digitCount_pos n)).mp le_rfl

/-- A positive number has no more digits than it needs. -/
lemma pow_digitCount_le (h : 0 < n) : 10 ^ (digitCount n - 1) ≤ n := by
  by_contra hlt
  rw [not_le] at hlt
  rcases Nat.eq_zero_or_pos (digitCount n - 1) with h0 | hpos
  · rw [h0] at hlt
    omega
  · have hcount := (Nat.length_toDigits_le_iff (by decide) hpos).mpr hlt
    rw [← digitCount] at hcount
    omega

/-- A decimal whose first digit stands beyond the format is larger than all its numbers. -/
lemma overflow_le_of_lead (h0 : d.digits ≠ 0) (h : d.exponent + digitCount d.digits > 310) :
    d.denominator * Binary64.overflow ≤ d.numerator * quantaPerUnit := by
  have hpow : 2 ^ 1024 ≤ 10 ^ 310 := by decide +kernel
  have hoverflow : Binary64.overflow = 2 ^ 1024 * quantaPerUnit := by decide +kernel
  have hdigits := pow_digitCount_le (Nat.pos_of_ne_zero h0)
  have hcount := digitCount_pos d.digits
  have hlarge : d.denominator * 10 ^ 310 ≤ d.numerator := by
    rw [denominator, numerator, Nat.pow_eq, Nat.pow_eq, ← pow_add]
    calc 10 ^ ((-d.exponent).toNat + 310)
        ≤ 10 ^ (digitCount d.digits - 1 + d.exponent.toNat) :=
          Nat.pow_le_pow_right (by decide) (by omega)
      _ = 10 ^ (digitCount d.digits - 1) * 10 ^ d.exponent.toNat := pow_add _ _ _
      _ ≤ d.digits * 10 ^ d.exponent.toNat := Nat.mul_le_mul_right _ hdigits
  rw [hoverflow, ← Nat.mul_assoc]
  exact Nat.mul_le_mul_right _ ((Nat.mul_le_mul_left _ hpow).trans hlarge)

/-- A decimal whose first digit stands below the format is less than half a quantum. -/
lemma two_mul_lt_of_lead (h : d.exponent + digitCount d.digits < -330) :
    2 * (d.numerator * quantaPerUnit) < d.denominator := by
  have hpow : 2 ^ 1075 ≤ 10 ^ 331 := by decide +kernel
  have hunit : 2 * quantaPerUnit = 2 ^ 1075 := by decide +kernel
  have hdigits := lt_pow_digitCount d.digits
  have hexponent : d.exponent.toNat = 0 := by omega
  calc 2 * (d.numerator * quantaPerUnit) = d.digits * 2 ^ 1075 := by
        rw [numerator, hexponent, Nat.pow_eq, pow_zero, Nat.mul_one, Nat.mul_left_comm, hunit]
    _ ≤ d.digits * 10 ^ 331 := Nat.mul_le_mul_left _ hpow
    _ < 10 ^ digitCount d.digits * 10 ^ 331 := Nat.mul_lt_mul_of_pos_right hdigits (by positivity)
    _ = 10 ^ (digitCount d.digits + 331) := (pow_add _ _ _).symm
    _ ≤ 10 ^ (-d.exponent).toNat := Nat.pow_le_pow_right (by decide) (by omega)
    _ = d.denominator := rfl

/-- **A decimal is read as the quotient of its numerator and its denominator**, however far its
digits lie from the point. -/
theorem toBinary64_eq_ofRatio (d : Decimal) :
    d.toBinary64 = .ofRatio d.negative d.numerator d.denominator := by
  have hzero : ∀ num, 2 * (num * quantaPerUnit) < d.denominator →
      Binary64.ofRatio d.negative num d.denominator = .finite d.negative .zero := by
    intro num h
    have hround : Binary64.roundToQuanta (num * quantaPerUnit) d.denominator = 0 := by
      have hnear := Binary64.dist_roundToQuanta_le (k := 0) d.denominator_pos (Nat.dvd_zero _)
        (num * quantaPerUnit)
      rw [Nat.mul_zero, Nat.dist_zero_right] at hnear
      by_contra hpos
      have hle := Nat.mul_le_mul_left d.denominator (Nat.one_le_iff_ne_zero.mpr hpos)
      rw [Nat.mul_one] at hle
      unfold Nat.dist at hnear
      omega
    rw [Binary64.ofRatio, hround, Binary64.ofQuanta, dif_pos Binary64.representable_zero,
      Binary64.Magnitude.zero]
  rw [toBinary64, ← numerator, ← denominator]
  split_ifs with h0 hlarge hsmall
  · refine (hzero d.numerator ?_).symm
    rw [numerator, h0, Nat.zero_mul, Nat.zero_mul]
    exact d.denominator_pos
  · have hround : Binary64.overflow ≤
        Binary64.roundToQuanta (d.numerator * quantaPerUnit) d.denominator := by
      exact Binary64.le_roundToQuanta d.denominator_pos Binary64.spacing_overflow_dvd
        (overflow_le_of_lead h0 hlarge)
    rw [Binary64.ofRatio, Binary64.ofQuanta, dif_neg]
    exact fun h => absurd h.1 (Nat.not_lt.mpr hround)
  · exact (hzero d.numerator (two_mul_lt_of_lead hsmall)).symm
  · rfl

/-- **A decimal is read as the nearest number**, if that is finite. -/
theorem isNearest_toBinary64 (h : d.toBinary64.isFinite = true) :
    IsNearest d.value d.toBinary64 := by
  rw [toBinary64_eq_ofRatio] at h ⊢
  rw [value_eq]
  exact Binary64.isNearest_ofRatio d.denominator_pos h

end Decimal

end TableExplorer
