import Mathlib
import TableExplorer.Proofs.Binary64.Nearest
import TableExplorer.Proofs.Numeral.Digits

/-!
The shortest digits read back.  Seventeen digits are always enough: the decimal of seventeen digits
next to a number differs from it by less than one part in `2 ^ 54`, and a quotient that close to a
number of the format rounds to it.  Shorter digits are only taken where they have been read back,
and trailing zeros do not matter.

* `Binary64.Magnitude.isReadFrom_congr`: what digits are read as depends on their value only.
* `Binary64.Magnitude.decimalScale_bounds`: **the scale**, the power of ten that a number is just
  less than; `onGrid_bounds`: the digits on a grid.
* `Binary64.Magnitude.isReadFrom_seventeen`: **seventeen digits read back**.
* `Binary64.Magnitude.isReadFrom_shortestDigits`: **the shortest digits read back**.
* `Binary64.ofChars?_toText`: **the text of a finite number is read as that number**, sign and all;
  `Binary64.toText_injective`: so different numbers have different texts.
-/

namespace TableExplorer

/-- The rational number that scaled digits denote. -/
def ScaledDigits.value (s : ScaledDigits) : ℚ := s.digits * (10 : ℚ) ^ s.exponent

/-- A trailing zero may stand in the exponent. -/
lemma ScaledDigits.value_dropZeros (fuel : Nat) (s : ScaledDigits) :
    (s.dropZeros fuel).value = s.value := by
  induction fuel generalizing s with
  | zero => rfl
  | succ fuel ih =>
      rw [dropZeros]
      split
      · rename_i h
        have hdigits : (s.digits : ℚ) = (s.digits / 10 : Nat) * 10 := by
          exact_mod_cast (Nat.div_mul_cancel (Nat.dvd_of_mod_eq_zero h.2)).symm
        rw [ih, value, value, hdigits, zpow_add₀ (by norm_num)]
        ring
      · rfl

/-- The positional text of scaled digits: the whole part, and the fraction behind a point. -/
def ScaledDigits.text (s : ScaledDigits) : List Char :=
  s.positional.1 ++ Decimal.behindPoint s.positional.2

/-- The numerator and the denominator of a decimal denote its digits and their power of ten. -/
lemma Decimal.numerator_div_denominator (d : Decimal) :
    (d.numerator : ℚ) / d.denominator = d.digits * (10 : ℚ) ^ d.exponent :=
  (value_eq { d with negative := false }).symm

/-- Scaled digits as a decimal without a sign. -/
def ScaledDigits.toDecimal (s : ScaledDigits) : Decimal := ⟨false, s.digits, s.exponent⟩

/-- The number that scaled digits denote as a quotient. -/
lemma ScaledDigits.value_eq_div (s : ScaledDigits) :
    s.value = (s.toDecimal.numerator : ℚ) / s.toDecimal.denominator :=
  s.toDecimal.numerator_div_denominator.symm

namespace Binary64.Magnitude

variable {m : Magnitude} {s t : ScaledDigits} {tie : Tie} {grid : Int}

/-- The rational number that a magnitude is. -/
def value (m : Magnitude) : ℚ := m.quanta / quantaPerUnit

/-! ### Digits and what they are read as -/

/-- Digits are read as a magnitude if and only if their quotient is rounded to its quanta. -/
lemma isReadFrom_iff (m : Magnitude) (s : ScaledDigits) : m.isReadFrom s = true ↔
    roundToQuanta (s.toDecimal.numerator * quantaPerUnit) s.toDecimal.denominator = m.quanta := by
  rw [isReadFrom, decide_eq_true_iff]
  exact Iff.rfl

/-- What digits are read as depends on the number that they denote only. -/
lemma isReadFrom_congr (h : s.value = t.value) : m.isReadFrom s = m.isReadFrom t := by
  have hs := s.toDecimal.denominator_pos
  have ht := t.toDecimal.denominator_pos
  have hcross : s.toDecimal.numerator * t.toDecimal.denominator =
      t.toDecimal.numerator * s.toDecimal.denominator := by
    rw [s.value_eq_div, t.value_eq_div, div_eq_div_iff (Nat.cast_ne_zero.mpr hs.ne')
      (Nat.cast_ne_zero.mpr ht.ne')] at h
    exact_mod_cast h
  rw [Bool.eq_iff_iff, isReadFrom_iff, isReadFrom_iff, ← roundToQuanta_mul_right ht,
    Nat.mul_right_comm, hcross, Nat.mul_right_comm, Nat.mul_comm s.toDecimal.denominator,
    roundToQuanta_mul_right hs]

/-- Dropping trailing zeros does not change what the digits are read as. -/
lemma isReadFrom_dropZeros (m : Magnitude) (fuel : Nat) (s : ScaledDigits) :
    m.isReadFrom (s.dropZeros fuel) = m.isReadFrom s :=
  isReadFrom_congr (s.value_dropZeros fuel)

/-! ### Decimal grids -/

lemma onGrid_den_pos (m : Magnitude) (grid : Int) : 0 < (m.onGrid grid).2 :=
  Nat.mul_pos quantaPerUnit_pos (Nat.pow_pos (by decide))

/-- On a grid stands the magnitude, divided by the power of ten of the grid. -/
lemma onGrid_div (m : Magnitude) (grid : Int) :
    ((m.onGrid grid).1 : ℚ) / (m.onGrid grid).2 = m.value / (10 : ℚ) ^ grid := by
  have hpower := Decimal.numerator_div_denominator ⟨false, 1, -grid⟩
  rw [Decimal.numerator, Decimal.denominator, neg_neg, Nat.cast_one, one_mul, one_mul, zpow_neg]
    at hpower
  rw [onGrid, Nat.cast_mul, Nat.cast_mul, mul_div_mul_comm, hpower, value,
    div_eq_mul_inv (m.quanta / _ : ℚ)]

/-- The scale counts the digits in front of the point, and behind it up to some place. -/
lemma exists_decimalScale (m : Magnitude) :
    ∃ shift : Nat, quantaPerUnit ≤ Nat.pow 10 shift ∧
      m.decimalScale =
        Decimal.digitCount (m.quanta * Nat.pow 10 shift / quantaPerUnit) - shift := by
  refine ⟨330, by decide +kernel, ?_⟩
  unfold decimalScale
  show _ - ((330 : Nat) : Int) = _
  -- the power itself is too large to be computed
  generalize 330 = shift
  rfl

/-- **The scale** of a positive magnitude: the power of ten that it is just less than. -/
lemma decimalScale_bounds (h : 0 < m.quanta) :
    (10 : ℚ) ^ (m.decimalScale - 1) ≤ m.value ∧ m.value < (10 : ℚ) ^ m.decimalScale := by
  obtain ⟨shift, hunit, hscale⟩ := exists_decimalScale m
  rw [Nat.pow_eq] at hunit hscale
  have hunit' := cast_quantaPerUnit_pos
  have hpos : 0 < m.quanta * 10 ^ shift / quantaPerUnit :=
    Nat.div_pos (hunit.trans (Nat.le_mul_of_pos_left _ h)) quantaPerUnit_pos
  have hcount := Decimal.digitCount_pos (m.quanta * 10 ^ shift / quantaPerUnit)
  have hlow := Decimal.pow_digitCount_le hpos
  have hhigh := Decimal.lt_pow_digitCount (m.quanta * 10 ^ shift / quantaPerUnit)
  rw [Nat.le_div_iff_mul_le quantaPerUnit_pos] at hlow
  rw [Nat.div_lt_iff_lt_mul quantaPerUnit_pos] at hhigh
  rw [hscale]
  generalize Decimal.digitCount (m.quanta * 10 ^ shift / quantaPerUnit) = count at *
  have hshift : (0 : ℚ) < 10 ^ shift := by positivity
  have hpower : ∀ k : Nat, (10 : ℚ) ^ ((k : Int) - shift) = 10 ^ k / 10 ^ shift := fun k => by
    rw [zpow_sub₀ (by norm_num), zpow_natCast, zpow_natCast]
  have hfirst : (count : Int) - shift - 1 = (count - 1 : Nat) - shift := by omega
  rw [value, hfirst, hpower, hpower, div_le_div_iff₀ hshift hunit', div_lt_div_iff₀ hunit' hshift]
  exact ⟨by exact_mod_cast hlow, by exact_mod_cast hhigh⟩

/-- On the grid of so many digits a positive magnitude has so many digits. -/
lemma onGrid_bounds (h : 0 < m.quanta) (places : Nat)
    (hgrid : grid = m.decimalScale - (places + 1)) :
    10 ^ places * (m.onGrid grid).2 ≤ (m.onGrid grid).1 ∧
      (m.onGrid grid).1 < 10 ^ (places + 1) * (m.onGrid grid).2 := by
  obtain ⟨hlow, hhigh⟩ := decimalScale_bounds h
  have hscale : m.decimalScale - 1 = (places : Int) + grid := by omega
  have hscale' : m.decimalScale = ((places + 1 : Nat) : Int) + grid := by omega
  rw [hscale, zpow_add₀ (by norm_num), zpow_natCast, ← le_div_iff₀ (by positivity), ← onGrid_div,
    le_div_iff₀ (Nat.cast_pos.mpr (m.onGrid_den_pos grid))] at hlow
  rw [hscale', zpow_add₀ (by norm_num), zpow_natCast, ← div_lt_iff₀ (by positivity), ← onGrid_div,
    div_lt_iff₀ (Nat.cast_pos.mpr (m.onGrid_den_pos grid))] at hhigh
  exact ⟨by exact_mod_cast hlow, by exact_mod_cast hhigh⟩

/-! ### Seventeen digits -/

/-- Digits that are half a unit of the grid away, where there are seventeen digits at least, are
read back. -/
lemma isReadFrom_of_near {digits : Nat}
    (hnear : 2 * Nat.dist (m.onGrid grid).1 ((m.onGrid grid).2 * digits) ≤ (m.onGrid grid).2)
    (hlarge : 10 ^ 16 * (m.onGrid grid).2 ≤ (m.onGrid grid).1) (hden : 0 < (m.onGrid grid).2) :
    m.isReadFrom ⟨digits, grid⟩ = true := by
  have hnum : Nat.pow 10 (-grid).toNat * m.quanta = (m.onGrid grid).1 := Nat.mul_comm _ _
  have hback : digits * Nat.pow 10 grid.toNat * quantaPerUnit = (m.onGrid grid).2 * digits := by
    rw [onGrid, Nat.mul_assoc, Nat.mul_comm digits, Nat.mul_comm quantaPerUnit]
  have hpow : 0 < Nat.pow 10 (-grid).toNat := Nat.pow_pos (by decide)
  rw [isReadFrom, decide_eq_true_iff, hback]
  refine roundToQuanta_eq_of_close hpow (representable_iff.mp m.representable).2 ?_
  rw [hnum, Nat.dist_comm]
  generalize (m.onGrid grid).1 = num, (m.onGrid grid).2 = den at hnear hlarge hden ⊢
  omega

/-- **Seventeen digits read back.** -/
lemma isReadFrom_seventeen (tie : Tie) (h : 0 < m.quanta) :
    m.isReadFrom ⟨roundQuotient tie (m.onGrid (m.decimalScale - 17)).1
      (m.onGrid (m.decimalScale - 17)).2, m.decimalScale - 17⟩ = true := by
  have hden := m.onGrid_den_pos (m.decimalScale - 17)
  exact isReadFrom_of_near (two_mul_dist_roundQuotient_le hden) (onGrid_bounds h 16 rfl).1 hden

/-! ### The shortest digits -/

/-- What is chosen is one of the neighbours and has passed the test, if the preferred one is one of
them. -/
lemma of_choose? {test : ScaledDigits → Bool} {below above preferred : ScaledDigits}
    (hpreferred : preferred = below ∨ preferred = above)
    (h : ScaledDigits.choose? test below above preferred = some s) :
    test s = true ∧ (s = below ∨ s = above) := by
  rw [ScaledDigits.choose?] at h
  cases hbelow : test below <;> cases habove : test above <;> rw [hbelow, habove] at h <;> cases h
  · exact ⟨habove, Or.inr rfl⟩
  · exact ⟨hbelow, Or.inl rfl⟩
  · refine ⟨?_, hpreferred⟩
    rcases hpreferred with rfl | rfl
    · exact hbelow
    · exact habove

/-- Rounded digits are those of one of the neighbours on the grid. -/
lemma rounded_onGrid (tie : Tie) (m : Magnitude) (grid : Int) :
    (⟨roundQuotient tie (m.onGrid grid).1 (m.onGrid grid).2, grid⟩ : ScaledDigits) =
        ⟨(m.onGrid grid).1 / (m.onGrid grid).2, grid⟩ ∨
      (⟨roundQuotient tie (m.onGrid grid).1 (m.onGrid grid).2, grid⟩ : ScaledDigits) =
        ⟨(m.onGrid grid).1 / (m.onGrid grid).2 + 1, grid⟩ := by
  rcases roundQuotient_cases tie (m.onGrid grid).1 (m.onGrid grid).2 with ⟨hr, -⟩ | ⟨hr, -⟩
  · exact Or.inl (congrArg (ScaledDigits.mk · grid) hr)
  · exact Or.inr (congrArg (ScaledDigits.mk · grid) hr)

/-- Digits that are taken on a grid have been read back, and are those of a neighbour. -/
lemma of_nearestOnGrid? (h : m.nearestOnGrid? tie grid = some s) :
    m.isReadFrom s = true ∧ (s = ⟨(m.onGrid grid).1 / (m.onGrid grid).2, grid⟩ ∨
      s = ⟨(m.onGrid grid).1 / (m.onGrid grid).2 + 1, grid⟩) :=
  of_choose? (rounded_onGrid tie m grid) h

/-- **The shortest digits read back.** -/
theorem isReadFrom_shortestDigits (tie : Tie) (h : 0 < m.quanta) :
    m.isReadFrom (m.shortestDigits tie) = true := by
  rw [shortestDigits]
  dsimp only
  rw [isReadFrom_dropZeros]
  cases hfound : List.findSome? (m.nearestOnGrid? tie)
      ((List.range 17).map fun (length : Nat) => m.decimalScale - ((length : Int) + 1)) with
  | none => exact isReadFrom_seventeen tie h
  | some s =>
      obtain ⟨grid, -, hgrid⟩ := List.exists_of_findSome?_eq_some hfound
      exact (of_nearestOnGrid? hgrid).1

end Binary64.Magnitude

namespace Binary64

/-! ### The text -/

variable {m : Magnitude} {s : ScaledDigits}

/-- A magnitude is the number that the decimal of its digits is read as. -/
lemma toBinary64_of_isReadFrom (negative : Bool) (h : m.isReadFrom s = true) :
    Decimal.toBinary64 ⟨negative, s.digits * 10 ^ s.exponent.toNat, -((-s.exponent).toNat : Int)⟩ =
      .finite negative m := by
  have hnumerator : ∀ n k : Nat, Decimal.numerator ⟨negative, n, -(k : Int)⟩ = n := by
    intro n k
    have hexponent : (-(k : Int)).toNat = 0 := by omega
    rw [Decimal.numerator, hexponent, Nat.pow_eq, Nat.pow_zero, Nat.mul_one]
  have hdenominator : ∀ n k : Nat, Decimal.denominator ⟨negative, n, -(k : Int)⟩ = 10 ^ k := by
    intro n k
    rw [Decimal.denominator, Int.neg_neg, Int.toNat_natCast, Nat.pow_eq]
  rw [Magnitude.isReadFrom, decide_eq_true_iff, Nat.pow_eq, Nat.pow_eq] at h
  rw [Decimal.toBinary64_eq_ofRatio, hnumerator, hdenominator, ofRatio, h, ofQuanta,
    dif_pos m.representable]

/-- The text of a finite number other than zero is made of its sign and its shortest digits. -/
lemma toList_toText (negative : Bool) (h : 0 < m.quanta) :
    (toText (.finite negative m)).toList =
      (signText negative).toList ++ (m.shortestDigits .awayFromZero).text := by
  rw [toText, if_neg h.ne', ScaledDigits.text]
  generalize (m.shortestDigits .awayFromZero).positional = parts
  obtain ⟨whole, fraction⟩ := parts
  cases fraction with
  | nil => rw [String.toList_append, String.toList_ofList, Decimal.behindPoint, List.append_nil]
  | cons d ds => rw [String.toList_append, String.toList_ofList, Decimal.behindPoint]

/-- The text of a finite number is made of digits that read back. -/
lemma exists_toText (negative : Bool) (m : Magnitude) :
    ∃ s : ScaledDigits, m.isReadFrom s = true ∧
      (toText (.finite negative m)).toList = (signText negative).toList ++
        (s.positional.1 ++ Decimal.behindPoint s.positional.2) := by
  by_cases hzero : m.quanta = 0
  · refine ⟨⟨0, 0⟩, ?_, ?_⟩
    · have hround : roundToQuanta (1 * 0) 1 = 0 := roundToQuanta_mul_self Nat.one_pos (dvd_zero _)
      rw [Magnitude.isReadFrom, decide_eq_true_iff, hzero, Nat.zero_mul, Nat.zero_mul]
      exact hround
    · rw [toText, if_pos hzero, String.toList_append]
      rfl
  · have hpos := Nat.pos_of_ne_zero hzero
    exact ⟨_, m.isReadFrom_shortestDigits _ hpos, toList_toText negative hpos⟩

/-- **The text of a finite number is read as that number**, sign and all. -/
theorem ofChars?_toText (negative : Bool) (m : Magnitude) :
    ∃ d, Decimal.ofChars? (toText (.finite negative m)).toList = some d ∧
      d.toBinary64 = .finite negative m := by
  obtain ⟨s, hread, htext⟩ := exists_toText negative m
  refine ⟨_, ?_, toBinary64_of_isReadFrom negative hread⟩
  rw [htext, Decimal.ofChars?_positional negative s.whole_ne_nil
    fun c => ScaledDigits.isDigit_of_mem_positional, s.digitsValue_positional, s.length_fraction]

/-- The text of a number is read as that number if it is finite, and is no numeral otherwise. -/
lemma map_toBinary64_toText (x : Binary64) :
    (Decimal.ofChars? x.toText.toList).map Decimal.toBinary64 =
      if x.isFinite then some x else none := by
  cases x with
  | finite negative m =>
      obtain ⟨d, hd, hm⟩ := ofChars?_toText negative m
      rw [hd, Option.map_some, hm]
      rfl
  | infinite negative => cases negative <;> decide
  | nan => decide

/-- **Different numbers have different texts.** -/
theorem toText_injective : Function.Injective toText := by
  intro x y h
  have hread : (if x.isFinite then some x else none) = if y.isFinite then some y else none := by
    rw [← map_toBinary64_toText, ← map_toBinary64_toText, h]
  cases x with
  | finite a m =>
      cases y with
      | finite b n => exact Option.some.inj hread
      | infinite b => cases hread
      | nan => cases hread
  | infinite a =>
      cases y with
      | finite b n => cases hread
      | infinite b => cases a <;> cases b <;> revert h <;> decide
      | nan => cases a <;> revert h <;> decide
  | nan =>
      cases y with
      | finite b n => cases hread
      | infinite b => cases b <;> revert h <;> decide
      | nan => rfl

end Binary64

end TableExplorer
