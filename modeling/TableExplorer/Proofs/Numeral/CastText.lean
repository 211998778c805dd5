import TableExplorer.Proofs.Numeral.FifteenDigits
import TableExplorer.Proofs.Numeral.Thousandths
import TableExplorer.Proofs.Numeral.WrittenDigits

/-!
The two texts of a real.  A real is shown in its shortest digits, and a search looks into its
fifteen rounded digits.  The one text stands in the other exactly if fifteen digits are enough and
stand neither too far behind the point nor too far in front of it: more than fifteen digits are not
found among fifteen, and large and small numbers are not found in a text with an exponent.

* `Binary64.Magnitude.text_prefix_castText`: a short magnitude is written alike in both texts, up to
  the last of its shortest digits.
* `Binary64.IsShort`: the numbers whose text stands in their cast.
* `Binary64.toText_infix_castText_iff`: **the text of a number stands in its cast** if and only if
  the number is short.
-/

namespace TableExplorer

namespace Binary64.Magnitude

variable {m : Magnitude} {s : ScaledDigits}

/-! ### Bounds -/

/-- Digits of at least a number of the format are read as at least that number. -/
lemma le_quanta_of_isReadFrom (hread : m.isReadFrom s = true) {k : Nat} (hk : spacing k ∣ k)
    (h : (k : ℚ) ≤ s.value * quantaPerUnit) : k ≤ m.quanta := by
  have hden := s.toDecimal.denominator_pos
  rw [← (isReadFrom_iff m s).mp hread]
  refine le_roundToQuanta hden hk ?_
  rw [s.value_eq_div, div_mul_eq_mul_div, le_div_iff₀ (Nat.cast_pos.mpr hden), mul_comm] at h
  exact_mod_cast h

/-- Digits of at most a number of the format are read as at most that number. -/
lemma quanta_le_of_isReadFrom (hread : m.isReadFrom s = true) {k : Nat} (hk : spacing k ∣ k)
    (h : s.value * quantaPerUnit ≤ k) : m.quanta ≤ k := by
  have hden := s.toDecimal.denominator_pos
  rw [← (isReadFrom_iff m s).mp hread]
  refine roundToQuanta_le hden hk ?_
  rw [s.value_eq_div, div_mul_eq_mul_div, div_le_iff₀ (Nat.cast_pos.mpr hden)] at h
  rw [Nat.mul_comm s.toDecimal.denominator]
  exact_mod_cast h

/-- The rounded digits are less than half of the magnitude away from it. -/
lemma fifteenDigits_bounds (hpos : 0 < m.quanta) :
    m.fifteenDigits.value ≤ 2 * m.value ∧ m.value ≤ 2 * m.fifteenDigits.value := by
  have hden := m.onGrid_den_pos m.fifteenthPlace
  have hunit : (0 : ℚ) < 10 ^ m.fifteenthPlace := by positivity
  have hnear : |m.value / 10 ^ m.fifteenthPlace - m.roundedDigits| ≤ 1 / 2 := by
    have hdist : 2 * Nat.dist (m.onGrid m.fifteenthPlace).1
        ((m.onGrid m.fifteenthPlace).2 * m.roundedDigits) ≤ (m.onGrid m.fifteenthPlace).2 :=
      two_mul_dist_roundQuotient_le hden
    have habs := abs_div_sub_div hden Nat.one_pos (m.onGrid m.fifteenthPlace).1 m.roundedDigits
    rw [Nat.cast_one, div_one, mul_one, mul_one, onGrid_div] at habs
    rw [habs, div_le_iff₀ (Nat.cast_pos.mpr hden)]
    have hcast : (2 * Nat.dist (m.onGrid m.fifteenthPlace).1
        ((m.onGrid m.fifteenthPlace).2 * m.roundedDigits) : ℚ) ≤ (m.onGrid m.fifteenthPlace).2 := by
      exact_mod_cast hdist
    linarith
  have hone : (1 : ℚ) ≤ m.roundedDigits :=
    Nat.one_le_cast.mpr (lt_of_lt_of_le (by norm_num) (roundedDigits_bounds hpos).1)
  obtain ⟨hlow, hhigh⟩ := abs_le.mp hnear
  have hvalue : m.fifteenDigits.value = m.roundedDigits * 10 ^ m.fifteenthPlace := by
    rw [fifteenDigits_eq, ScaledDigits.value_dropZeros, ScaledDigits.value]
  rw [hvalue, ← le_div_iff₀ hunit, mul_div_assoc, ← mul_assoc, ← div_le_iff₀ hunit]
  constructor <;> linarith

/-- The rounded digits are fifteen at most. -/
lemma digits_fifteenDigits_lt (hpos : 0 < m.quanta) : m.fifteenDigits.digits < 10 ^ 15 := by
  have hreduced := isReduced_fifteenDigits hpos
  refine lt_of_le_of_ne ?_ fun heq => hreduced (by rw [heq]; norm_num)
  have hmost := (roundedDigits_bounds hpos).2
  rw [fifteenDigits_eq]
  generalize m.roundedDigits = digits at hmost
  exact (ScaledDigits.digits_dropZeros_le _ _).trans hmost

/-- The numbers above `10 ^ -5` have 53 binary digits. -/
lemma lt_quanta_of_le_value (h : 1 / 10 ^ 5 ≤ m.value) : 2 ^ 52 < m.quanta := by
  have hunit : 10 ^ 5 * 2 ^ 52 < quantaPerUnit := by decide +kernel
  have hcast : (10 ^ 5 * 2 ^ 52 : ℚ) < quantaPerUnit := by exact_mod_cast hunit
  rw [value, div_le_div_iff₀ (by norm_num) cast_quantaPerUnit_pos, one_mul] at h
  have hquanta : (2 ^ 52 : ℚ) < m.quanta := by
    generalize (quantaPerUnit : ℚ) = unit at *
    linarith
  exact_mod_cast hquanta

/-- Digits of at least so many units are read as at least as many. -/
lemma natCast_le_value {n : Nat} (hn : n < 2 ^ 53) (hread : m.isReadFrom s = true)
    (h : (n : ℚ) ≤ s.value) : (n : ℚ) ≤ m.value := by
  rw [value, le_div_iff₀ cast_quantaPerUnit_pos, ← Nat.cast_mul, Nat.cast_le]
  refine le_quanta_of_isReadFrom hread (representable_iff.mp (representable_units hn)).2 ?_
  rw [Nat.cast_mul]
  exact mul_le_mul_of_nonneg_right h cast_quantaPerUnit_pos.le

/-- Digits of at most so many units are read as at most as many. -/
lemma value_le_natCast {n : Nat} (hn : n < 2 ^ 53) (hread : m.isReadFrom s = true)
    (h : s.value ≤ n) : m.value ≤ n := by
  rw [value, div_le_iff₀ cast_quantaPerUnit_pos, ← Nat.cast_mul, Nat.cast_le]
  refine quanta_le_of_isReadFrom hread (representable_iff.mp (representable_units hn)).2 ?_
  rw [Nat.cast_mul]
  exact mul_le_mul_of_nonneg_right h cast_quantaPerUnit_pos.le

/-! ### The text in fifteen digits -/

/-- A magnitude is cast to the text of its rounded digits. -/
lemma castText_eq (m : Magnitude) : m.castText = m.fifteenDigits.castText := rfl

/-- A decimal of fifteen digits, not too small and not too large, is read as the magnitude. -/
def IsShort (m : Magnitude) : Prop :=
  ∃ s : ScaledDigits, s.digits < 10 ^ 15 ∧ m.isReadFrom s = true ∧
    1 / 10 ^ 4 ≤ s.value ∧ s.value < 10 ^ 15

/-- Decimals from `10 ^ -4` on are read as numbers of 53 binary digits. -/
lemma lt_quanta_of_isReadFrom (hread : m.isReadFrom s = true) (h : 1 / 10 ^ 4 ≤ s.value) :
    2 ^ 52 < m.quanta := by
  have hunit : 10 ^ 4 * 2 ^ 53 < quantaPerUnit := by decide +kernel
  have hcast : (10 ^ 4 * 2 ^ 53 : ℚ) < quantaPerUnit := by exact_mod_cast hunit
  have hle : ((2 ^ 53 : Nat) : ℚ) ≤ s.value * quantaPerUnit :=
    calc ((2 ^ 53 : Nat) : ℚ) = 1 / 10 ^ 4 * (10 ^ 4 * 2 ^ 53) := by norm_num
      _ ≤ s.value * quantaPerUnit :=
          mul_le_mul h hcast.le (by norm_num) (le_trans (by norm_num) h)
  exact (by norm_num : 2 ^ 52 < 2 ^ 53).trans_le
    (le_quanta_of_isReadFrom hread (spacing_two_pow_dvd 53) hle)

/-- A magnitude is short if and only if its rounded digits are its shortest ones and stand in the
middle. -/
lemma isShort_iff (hpos : 0 < m.quanta) :
    m.IsShort ↔
      m.fifteenDigits.IsPositional ∧ (m.shortestDigits .awayFromZero).digits < 10 ^ 15 := by
  have hdigits := (isReduced_fifteenDigits hpos).digits_pos
  constructor
  · rintro ⟨s, hfew, hread, hlow, hhigh⟩
    have hnormal := lt_quanta_of_isReadFrom hread hlow
    rw [ScaledDigits.isPositional_iff hdigits, value_fifteenDigits hnormal hread hfew,
      shortestDigits_eq_fifteenDigits _ hnormal hread hfew]
    exact ⟨⟨hlow, hhigh⟩, digits_fifteenDigits_lt hpos⟩
  · rintro ⟨hpositional, hfew⟩
    rw [ScaledDigits.isPositional_iff hdigits] at hpositional
    have hnormal : 2 ^ 52 < m.quanta := by
      refine lt_quanta_of_le_value ?_
      have hbound := (fifteenDigits_bounds hpos).1
      linarith [hpositional.1]
    have hread := isReadFrom_shortestDigits .awayFromZero hpos
    rw [value_fifteenDigits hnormal hread hfew] at hpositional
    exact ⟨_, hfew, hread, hpositional⟩

/-! ### One text in the other -/

/-- The digits of a piece of a positional cast are fifteen at most, but for zeros at its ends. -/
lemma digits_lt_of_infix (hpos : 0 < m.quanta) (hpositional : m.fifteenDigits.IsPositional)
    (hreduced : s.IsReduced) (hin : s.text <:+: m.castText) : s.digits < 10 ^ 15 := by
  obtain ⟨front, back, hcast⟩ := ScaledDigits.exists_filter_castText hpositional
  obtain ⟨front', back', htext⟩ := s.exists_filter_positional
  have hdigits := hin.filter Char.isDigit
  rw [ScaledDigits.filter_isDigit_text, htext, castText_eq, hcast] at hdigits
  have hpiece := (List.infix_append _ _ _).trans hdigits
  have hcore := infix_of_replicate_append (zero_notMem_head?_toDigits hreduced.digits_pos)
    (infix_of_append_replicate (zero_notMem_getLast?_toDigits hreduced) hpiece)
  have hfew : (Nat.toDigits 10 m.fifteenDigits.digits).length ≤ 15 :=
    (Nat.length_toDigits_le_iff (by decide) (by decide)).mpr (digits_fifteenDigits_lt hpos)
  exact (Nat.length_toDigits_le_iff (by decide) (by decide)).mp (hcore.length_le.trans hfew)

/-- The first digit does not stand as far as three hundred and ten places in front of the point. -/
lemma lead_fifteenDigits_lt (hpos : 0 < m.quanta) : m.fifteenDigits.lead < 310 := by
  have hoverflow : overflow = 2 ^ 1024 * quantaPerUnit := by decide +kernel
  have hpower : 2 * 2 ^ 1024 < 10 ^ 310 := by decide +kernel
  have hvalue : m.value < (2 ^ 1024 : Nat) := by
    rw [value, div_lt_iff₀ cast_quantaPerUnit_pos, ← Nat.cast_mul, Nat.cast_lt, ← hoverflow]
    exact m.representable.1
  have hcast : ((2 * 2 ^ 1024 : Nat) : ℚ) < (10 ^ 310 : Nat) := Nat.cast_lt.mpr hpower
  have hbounds := (fifteenDigits_bounds hpos).1
  by_contra hge
  have hlarge := (ScaledDigits.zpow_le_value_iff (isReduced_fifteenDigits hpos).digits_pos 310).mpr
    (not_lt.mp hge)
  rw [zpow_ofNat, ← Nat.cast_ofNat, ← Nat.cast_pow] at hlarge
  rw [Nat.cast_mul] at hcast
  -- the powers themselves are too large to be computed
  generalize ((10 ^ 310 : Nat) : ℚ) = ten at *
  generalize ((2 ^ 1024 : Nat) : ℚ) = two at *
  push_cast at hcast
  linarith

/-- A number with fifteen digits in front of the point is not found in its text with an exponent. -/
lemma not_infix_of_le_lead (hpos : 0 < m.quanta) (hlead : 15 ≤ m.fifteenDigits.lead) :
    ¬(m.shortestDigits .awayFromZero).text <:+: m.castText := by
  intro hin
  have hbounds := (fifteenDigits_bounds hpos).1
  have hdigits := (isReduced_fifteenDigits hpos).digits_pos
  have hlarge := (ScaledDigits.zpow_le_value_iff hdigits 15).mpr hlead
  have hread := isReadFrom_shortestDigits .awayFromZero hpos
  have hshort : 10 ^ 14 ≤ (m.shortestDigits .awayFromZero).value := by
    by_contra hlt
    have hle := value_le_natCast (n := 10 ^ 14) (by norm_num) hread
      (by push_cast; exact (not_le.mp hlt).le)
    push_cast at hle
    norm_num at hlarge hle
    linarith
  have hlength : 14 < (m.shortestDigits .awayFromZero).positional.1.length := by
    have hlt := hshort.trans_lt (ScaledDigits.value_lt_pow_length_whole _)
    exact (pow_lt_pow_iff_right₀ (by norm_num : (1 : ℚ) < 10)).mp hlt
  have hwhole := (List.infix_append_left).trans hin
  rw [castText_eq] at hwhole
  have hle := ScaledDigits.length_le_of_infix_castText (fun h => absurd h.2 (not_lt.mpr hlead))
    (digits_fifteenDigits_lt hpos) ?_ ?_ hwhole
  · omega
  · have hlt := lead_fifteenDigits_lt hpos
    omega
  · exact fun c hc => ScaledDigits.isDigit_of_mem_positional (List.mem_append_left _ hc)

/-- A number with zeros behind the point is not found in the text with its exponent. -/
lemma not_infix_of_lead_lt (hpos : 0 < m.quanta) (hlead : m.fifteenDigits.lead < -4) :
    ¬(m.shortestDigits .awayFromZero).text <:+: m.castText := by
  intro hin
  have hdigits := (isReduced_fifteenDigits hpos).digits_pos
  have hread := isReadFrom_shortestDigits .awayFromZero hpos
  have hbounds := (fifteenDigits_bounds hpos).2
  have hsmall : m.fifteenDigits.value < 10 ^ (-4 : Int) := by
    rw [← not_le, ScaledDigits.zpow_le_value_iff hdigits]
    omega
  have hone : (m.shortestDigits .awayFromZero).value < 1 := by
    by_contra hge
    have hle := natCast_le_value (n := 1) (by norm_num) hread (by push_cast; exact not_lt.mp hge)
    norm_num at hsmall hle
    linarith
  obtain ⟨hwhole, hfraction⟩ := ScaledDigits.positional_of_lt_one
    (digits_pos_of_isReadFrom hpos hread) hone
  rw [ScaledDigits.text, hwhole, Decimal.behindPoint_of_ne_nil hfraction, castText_eq] at hin
  exact ScaledDigits.not_infix_castText (fun h => absurd h.1 (not_le.mpr hlead)) hdigits _ hin

/-- The text of a short magnitude is the beginning of its cast. -/
lemma text_prefix_castText (hpos : 0 < m.quanta) (h : m.IsShort) :
    (m.shortestDigits .awayFromZero).text <+: m.castText := by
  have hpositional := ((isShort_iff hpos).mp h).1
  obtain ⟨s, hfew, hread, hlow, -⟩ := h
  rw [shortestDigits_eq_fifteenDigits _ (lt_quanta_of_isReadFrom hread hlow) hread hfew,
    castText_eq, ScaledDigits.castText_of_isPositional hpositional, ScaledDigits.text]
  refine (List.prefix_append_right_inj _).mpr ?_
  generalize m.fifteenDigits.positional.2 = fraction
  cases fraction with
  | nil => exact List.nil_prefix
  | cons d ds => exact List.prefix_rfl

/-- **The text of a magnitude stands in its cast** if and only if it is short. -/
theorem infix_castText_iff (hpos : 0 < m.quanta) :
    (m.shortestDigits .awayFromZero).text <:+: m.castText ↔ m.IsShort := by
  refine ⟨fun hin => (isShort_iff hpos).mpr ?_, fun h => (text_prefix_castText hpos h).isInfix⟩
  have hpositional : m.fifteenDigits.IsPositional := by
    by_contra h
    rcases not_and_or.mp h with hlow | hhigh
    · exact not_infix_of_lead_lt hpos (not_le.mp hlow) hin
    · exact not_infix_of_le_lead hpos (not_lt.mp hhigh) hin
  exact ⟨hpositional, digits_lt_of_infix hpos hpositional
    (isReduced_shortestDigits .awayFromZero hpos) hin⟩

end Binary64.Magnitude

namespace Binary64

variable {m : Magnitude} {negative : Bool}

/-! ### Signs -/

/-- The numbers that are found by their text: zero, the infinities, and what a decimal of fifteen
digits, not too small and not too large, is read as. -/
def IsShort (x : Binary64) : Prop :=
  x = .zero ∨ (∃ negative, x = .infinite negative) ∨
    ∃ d : Decimal, d.digits < 10 ^ 15 ∧ d.toBinary64 = x ∧
      1 / 10 ^ 4 ≤ |d.value| ∧ |d.value| < 10 ^ 15

/-- A decimal is read as a finite number if it has its sign and its digits are read as its
magnitude. -/
lemma toBinary64_eq_finite_iff (d : Decimal) :
    d.toBinary64 = .finite negative m ↔
      d.negative = negative ∧ m.isReadFrom ⟨d.digits, d.exponent⟩ = true := by
  have hread : m.isReadFrom ⟨d.digits, d.exponent⟩ = true ↔
      roundToQuanta (d.numerator * quantaPerUnit) d.denominator = m.quanta :=
    Magnitude.isReadFrom_iff m ⟨d.digits, d.exponent⟩
  rw [hread, Decimal.toBinary64_eq_ofRatio, ofRatio_eq_finite_iff]

/-- A decimal of fifteen digits is read as a finite number if and only if the magnitude is short. -/
lemma exists_decimal_iff :
    (∃ d : Decimal, d.digits < 10 ^ 15 ∧ d.toBinary64 = .finite negative m ∧
      1 / 10 ^ 4 ≤ |d.value| ∧ |d.value| < 10 ^ 15) ↔ m.IsShort := by
  have hvalue : ∀ d : Decimal, |d.value| = ScaledDigits.value ⟨d.digits, d.exponent⟩ := by
    intro d
    have hnonneg : (0 : ℚ) ≤ d.digits * 10 ^ d.exponent := by positivity
    rw [Decimal.value, signed, ScaledDigits.value]
    split
    · rw [abs_neg, abs_of_nonneg hnonneg]
    · rw [abs_of_nonneg hnonneg]
  constructor
  · rintro ⟨d, hfew, hread, hrange⟩
    rw [hvalue] at hrange
    exact ⟨_, hfew, ((toBinary64_eq_finite_iff d).mp hread).2, hrange⟩
  · rintro ⟨s, hfew, hread, hrange⟩
    let d : Decimal := ⟨negative, s.digits, s.exponent⟩
    refine ⟨d, hfew, (toBinary64_eq_finite_iff d).mpr ⟨rfl, hread⟩, ?_⟩
    rw [hvalue]
    exact hrange

/-- A finite number other than zero is short if and only if its magnitude is. -/
lemma isShort_finite_iff (hpos : 0 < m.quanta) :
    (finite negative m).IsShort ↔ m.IsShort := by
  rw [IsShort, exists_decimal_iff]
  constructor
  · rintro (hzero | ⟨_, hinfinite⟩ | h)
    · have hquanta : m.quanta = 0 := congrArg Magnitude.quanta (finite.inj hzero).2
      exact absurd hquanta hpos.ne'
    · cases hinfinite
    · exact h
  · exact fun h => Or.inr (Or.inr h)

/-- Of the two zeros the negative one is not short. -/
lemma isShort_zero_iff (hzero : m.quanta = 0) :
    (finite negative m).IsShort ↔ negative = false := by
  rw [IsShort, exists_decimal_iff]
  constructor
  · rintro (heq | ⟨_, hinfinite⟩ | ⟨s, -, hread, hlow, -⟩)
    · exact (finite.inj heq).1
    · cases hinfinite
    · have hnormal := Magnitude.lt_quanta_of_isReadFrom hread hlow
      rw [hzero] at hnormal
      exact absurd hnormal (Nat.not_lt_zero _)
  · rintro rfl
    obtain ⟨quanta, hrepresentable⟩ := m
    cases hzero
    exact Or.inl rfl

/-- No decimal is read as not-a-number. -/
lemma not_isShort_nan : ¬nan.IsShort := by
  rintro (hzero | ⟨_, hinfinite⟩ | ⟨d, -, hread, -⟩)
  · cases hzero
  · cases hinfinite
  · rw [Decimal.toBinary64_eq_ofRatio, ofRatio, ofQuanta] at hread
    split at hread <;> cases hread

/-- A finite number other than zero is cast to its sign and the text of its magnitude. -/
lemma toList_castText (negative : Bool) (hpos : 0 < m.quanta) :
    (castText (.finite negative m)).toList = (signText negative).toList ++ m.castText := by
  rw [castText, if_neg hpos.ne', String.toList_append, String.toList_ofList]

/-- A text with a sign stands in another one with the same sign only if it does without. -/
lemma infix_of_signText_append {text cast : List Char} (negative : Bool)
    (h : (signText negative).toList ++ text <:+: (signText negative).toList ++ cast) :
    text <:+: cast := by
  cases negative with
  | false => exact h
  | true =>
      rcases List.infix_cons_iff.mp h with hpre | hin
      · exact (List.cons_prefix_cons.mp hpre).2.isInfix
      · exact (List.suffix_cons _ _).isInfix.trans hin

/-- **The text of a number stands in its cast** if and only if it is short; zeros aside. -/
theorem toText_infix_castText_iff (hpos : 0 < m.quanta) :
    (toText (.finite negative m)).toList <:+: (castText (.finite negative m)).toList ↔
      (finite negative m).IsShort := by
  rw [toList_toText negative hpos, toList_castText negative hpos, isShort_finite_iff hpos]
  constructor
  · intro hin
    exact (Magnitude.infix_castText_iff hpos).mp (infix_of_signText_append negative hin)
  · intro h
    exact ((List.prefix_append_right_inj _).mpr
      (Magnitude.text_prefix_castText hpos h)).isInfix

end Binary64

end TableExplorer
