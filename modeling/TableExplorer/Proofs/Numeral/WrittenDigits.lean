import TableExplorer.Numeral.Significant
import TableExplorer.Proofs.Numeral.ReadBack

/-!
The two ways to write digits.  Scaled digits are shown in a positional text, and a cast writes them
with a point and one decimal at least, or with an exponent where they stand far from the point.

* `ScaledDigits.zpow_le_value_iff`: where the first digit stands.
* `ScaledDigits.exists_filter_positional`, `exists_filter_castText`: **the digits of both texts**
  are the digits themselves, with zeros in front and behind.
* `ScaledDigits.length_le_of_infix_castText`: **a run of digits in a text with an exponent** has
  fourteen digits at most; `not_infix_castText`: no zero stands in front of its point.
* `infix_of_notMem`, `infix_of_replicate_append`, `infix_of_append_replicate`: a piece without a
  separator stands on one side of it, and a piece that neither begins nor ends with a zero stands
  between the zeros at the ends.
-/

namespace TableExplorer

/-! ### Pieces of lists -/

section

variable {α : Type} {piece xs ys : List α} {sep z : α}

/-- A piece without a separator stands on one side of it. -/
lemma infix_of_notMem (hsep : sep ∉ piece) (h : piece <:+: xs ++ sep :: ys) :
    piece <:+: xs ∨ piece <:+: ys := by
  have hhead : ∀ tail, tail ⊆ piece → tail <+: sep :: ys → tail = [] := by
    intro tail htail hpre
    cases tail with
    | nil => rfl
    | cons c cs =>
        obtain ⟨rfl, -⟩ := List.cons_prefix_cons.mp hpre
        exact absurd (htail List.mem_cons_self) hsep
  rcases List.infix_append_iff.mp h with hxs | hys | ⟨front, back, rfl, hfront, hback⟩
  · exact Or.inl hxs
  · rcases List.infix_cons_iff.mp hys with hpre | hin
    · rw [hhead piece (List.Subset.refl _) hpre]
      exact Or.inl List.nil_infix
    · exact Or.inr hin
  · rw [hhead back (List.subset_append_right _ _) hback, List.append_nil]
    exact Or.inl hfront.isInfix

/-- A piece that does not start with a zero stands behind the zeros in front. -/
lemma infix_of_replicate_append {n : Nat} (hhead : z ∉ piece.head?)
    (h : piece <:+: List.replicate n z ++ xs) : piece <:+: xs := by
  induction n with
  | zero => exact h
  | succ n ih =>
      rw [List.replicate_succ, List.cons_append, List.infix_cons_iff] at h
      rcases h with hpre | hin
      · cases piece with
        | nil => exact List.nil_infix
        | cons c cs =>
            have hsame := (List.cons_prefix_cons.mp hpre).1
            exact absurd (hsame ▸ rfl : z ∈ (c :: cs).head?) hhead
      · exact ih hin

/-- A piece that does not end with a zero stands in front of the zeros behind. -/
lemma infix_of_append_replicate {n : Nat} (hlast : z ∉ piece.getLast?)
    (h : piece <:+: xs ++ List.replicate n z) : piece <:+: xs := by
  rw [← List.reverse_infix] at h ⊢
  rw [List.reverse_append, List.reverse_replicate] at h
  exact infix_of_replicate_append (by rwa [List.head?_reverse]) h

end

/-! ### Digits -/

/-- The first digit of a positive number is not zero. -/
lemma zero_notMem_head?_toDigits {n : Nat} (h : 0 < n) : '0' ∉ (Nat.toDigits 10 n).head? := by
  have hdigit : ∀ k < 10, k ≠ 0 → Nat.digitChar k ≠ '0' := by decide
  induction n using Nat.strongRecOn with
  | ind n ih =>
      rw [Nat.toDigits_eq_if (by decide)]
      split
      · rename_i hlt
        intro hmem
        exact hdigit n hlt h.ne' (Option.mem_some.mp hmem)
      · rename_i hge
        rw [List.head?_append_of_ne_nil _ Nat.toDigits_ne_nil]
        exact ih _ (Nat.div_lt_self h (by decide)) (Nat.div_pos (by omega) (by decide))

/-- The last digit of a number that is no multiple of ten is not zero. -/
lemma zero_notMem_getLast?_toDigits {n : Nat} (h : n % 10 ≠ 0) :
    '0' ∉ (Nat.toDigits 10 n).getLast? := by
  have hdigit : ∀ k < 10, k ≠ 0 → Nat.digitChar k ≠ '0' := by decide
  have hlast : (Nat.toDigits 10 n).getLast? = some (n % 10).digitChar := by
    rw [Nat.toDigits_eq_if (by decide)]
    split
    · rename_i hlt
      rw [Nat.mod_eq_of_lt hlt]
      rfl
    · rw [List.getLast?_append, List.getLast?_singleton]
      rfl
  rw [hlast]
  exact fun hmem => hdigit _ (Nat.mod_lt n (by decide)) h (Option.mem_some.mp hmem)

/-- The characters that numerals are written with: digits, points, signs and the exponent's. -/
def Text.isNumeral (c : Char) : Bool :=
  c.isDigit || c == '.' || c == 'e' || c == '-' || c == '+'

lemma Text.isNumeral_of_digits {cs : List Char} (h : ∀ c ∈ cs, c.isDigit = true) :
    ∀ c ∈ cs, isNumeral c = true := by
  intro c hc
  rw [isNumeral, h c hc, Bool.true_or, Bool.true_or, Bool.true_or, Bool.true_or]

namespace ScaledDigits

variable {s : ScaledDigits}

/-- The digits of a positional text, with zeros in front and behind. -/
lemma exists_filter_positional (s : ScaledDigits) : ∃ front back : Nat,
    s.positional.1 ++ s.positional.2 =
      List.replicate front '0' ++ Nat.toDigits 10 s.digits ++ List.replicate back '0' := by
  rcases lt_or_ge s.exponent 0 with hneg | hnonneg
  · obtain ⟨zeros, hdigits, -⟩ := positional_of_neg hneg
    exact ⟨zeros, 0, by rw [hdigits, List.replicate_zero, List.append_nil]⟩
  · rw [positional_of_nonneg hnonneg, List.append_nil]
    exact ⟨0, s.exponent.toNat, by rw [List.replicate_zero, List.nil_append]⟩

/-- The number that digits denote, by the powers of ten of its numerator and denominator. -/
lemma value_eq_div_pow (s : ScaledDigits) :
    s.value =
      ((s.digits * 10 ^ s.exponent.toNat : Nat) : ℚ) / (10 ^ (-s.exponent).toNat : Nat) :=
  s.value_eq_div

/-- A number is less than the power of ten of the digits in front of its point. -/
lemma value_lt_pow_length_whole (s : ScaledDigits) : s.value < 10 ^ s.positional.1.length := by
  have hlt := Decimal.ofDigitChars_lt fun _ => s.isDigit_of_mem_positional
  rw [← Decimal.digitsValue_eq, digitsValue_positional, List.length_append, length_fraction,
    pow_add] at hlt
  rw [value_eq_div_pow, div_lt_iff₀ (by positivity)]
  exact_mod_cast hlt

/-- A number that is less than one has a zero in front of its point, and digits behind it. -/
lemma positional_of_lt_one (hpos : 0 < s.digits) (h : s.value < 1) :
    s.positional.1 = ['0'] ∧ s.positional.2 ≠ [] := by
  rw [value_eq_div_pow, div_lt_one (by positivity), Nat.cast_lt] at h
  have hneg : s.exponent < 0 := by
    by_contra hnonneg
    rw [show (-s.exponent).toNat = 0 by omega, Nat.pow_zero] at h
    have hone := Nat.mul_pos hpos (Nat.pow_pos (by decide) : 0 < 10 ^ s.exponent.toNat)
    omega
  have hzero : s.exponent.toNat = 0 := by omega
  rw [hzero, Nat.pow_zero, Nat.mul_one] at h
  have hcount : (Nat.toDigits 10 s.digits).length ≤ (-s.exponent).toNat :=
    (Nat.length_toDigits_le_iff (by decide) (by omega)).mpr h
  refine ⟨?_, List.ne_nil_of_length_pos (by rw [length_fraction]; omega)⟩
  rw [positional]
  dsimp only
  rw [if_neg (not_le.mpr hneg)]
  dsimp only
  have hlength :
      (List.replicate ((-s.exponent).toNat + 1 - (Nat.toDigits 10 s.digits).length) '0' ++
      Nat.toDigits 10 s.digits).length - (-s.exponent).toNat = 1 := by
    rw [List.length_append, List.length_replicate]
    omega
  obtain ⟨k, hk⟩ : ∃ k, (-s.exponent).toNat + 1 - (Nat.toDigits 10 s.digits).length = k + 1 :=
    ⟨(-s.exponent).toNat - (Nat.toDigits 10 s.digits).length, by omega⟩
  rw [hlength, hk, List.replicate_succ, List.cons_append, List.take_succ_cons, List.take_zero]

/-- The digits among the characters of a positional text. -/
lemma filter_isDigit_text (s : ScaledDigits) :
    s.text.filter Char.isDigit = s.positional.1 ++ s.positional.2 := by
  have hwhole : s.positional.1.filter Char.isDigit = s.positional.1 :=
    List.filter_eq_self.mpr fun _ hc => s.isDigit_of_mem_positional (List.mem_append_left _ hc)
  have hfraction : s.positional.2.filter Char.isDigit = s.positional.2 :=
    List.filter_eq_self.mpr fun _ hc => s.isDigit_of_mem_positional (List.mem_append_right _ hc)
  rw [text, List.filter_append, hwhole]
  congr 1
  cases hparts : s.positional.2 with
  | nil => rfl
  | cons d ds =>
      rw [hparts] at hfraction
      rw [Decimal.behindPoint, List.filter_cons_of_neg (by decide), hfraction]

/-- The power of ten of the first digit. -/
def lead (s : ScaledDigits) : Int := s.exponent + Decimal.digitCount s.digits - 1

/-- A number is at least a power of ten if and only if its first digit stands there or higher. -/
lemma zpow_le_value_iff (hpos : 0 < s.digits) (k : Int) : (10 : ℚ) ^ k ≤ s.value ↔ k ≤ s.lead := by
  have hcount := Decimal.digitCount_pos s.digits
  have hpower : ∀ n : Nat, (10 : ℚ) ^ n * 10 ^ s.exponent = 10 ^ ((n : Int) + s.exponent) :=
    fun n => by rw [zpow_add₀ (by norm_num), zpow_natCast]
  have hunit : (0 : ℚ) < 10 ^ s.exponent := by positivity
  constructor
  · intro h
    have hlt : s.value < 10 ^ ((Decimal.digitCount s.digits : Int) + s.exponent) := by
      rw [value, ← hpower]
      exact mul_lt_mul_of_pos_right (by exact_mod_cast Decimal.lt_pow_digitCount s.digits) hunit
    have hexponent := (zpow_lt_zpow_iff_right₀ (by norm_num)).mp (h.trans_lt hlt)
    rw [lead]
    omega
  · intro h
    have hle : (10 : ℚ) ^ (((Decimal.digitCount s.digits - 1 : Nat) : Int) + s.exponent) ≤
        s.value := by
      rw [value, ← hpower]
      exact mul_le_mul_of_nonneg_right (by exact_mod_cast Decimal.pow_digitCount_le hpos) hunit.le
    refine (zpow_le_zpow_right₀ (by norm_num) ?_).trans hle
    rw [lead] at h
    omega

/-- The whole part has no leading zeros, unless it is zero. -/
lemma whole_eq_zero (hpos : 0 < s.digits) (hhead : '0' ∈ s.positional.1.head?) :
    s.positional.1 = ['0'] := by
  rcases lt_or_ge s.value 1 with hlt | hge
  · exact (positional_of_lt_one hpos hlt).1
  · rw [← zpow_zero (10 : ℚ), zpow_le_value_iff hpos, lead, Decimal.digitCount] at hge
    refine absurd ?_ (zero_notMem_head?_toDigits hpos)
    rcases lt_or_ge s.exponent 0 with hneg | hnonneg
    · have hzeros : (-s.exponent).toNat + 1 - (Nat.toDigits 10 s.digits).length = 0 := by omega
      rw [positional] at hhead
      dsimp only at hhead
      rw [if_neg (not_le.mpr hneg), hzeros, List.replicate_zero, List.nil_append,
        List.head?_take, if_neg (by omega)] at hhead
      exact hhead
    · rwa [positional_of_nonneg hnonneg, List.head?_append_of_ne_nil _ Nat.toDigits_ne_nil] at hhead

/-- The first digit stands between the fourth place behind the point and the fifteenth in front of
it. -/
def IsPositional (s : ScaledDigits) : Prop := -4 ≤ s.lead ∧ s.lead < 15

lemma isPositional_iff (hpos : 0 < s.digits) :
    s.IsPositional ↔ 1 / 10 ^ 4 ≤ s.value ∧ s.value < 10 ^ 15 := by
  have hlow := zpow_le_value_iff hpos (-4)
  have hhigh := zpow_le_value_iff hpos 15
  rw [show (10 : ℚ) ^ (-4 : Int) = 1 / 10 ^ 4 by norm_num] at hlow
  rw [show (10 : ℚ) ^ (15 : Int) = 10 ^ 15 by norm_num] at hhigh
  rw [IsPositional, hlow, ← not_le, ← not_le, hhigh]

/-- The text of digits that a cast gives: positional, or with an exponent if the first digit stands
too far from the point. -/
def castText (s : ScaledDigits) : List Char :=
  let digits := Nat.toDigits 10 s.digits
  let lead := s.exponent + digits.length - 1
  if -4 ≤ lead ∧ lead < 15 then
    let (whole, fraction) := s.positional
    whole ++ '.' :: atLeastOneDecimal fraction
  else
    digits.take 1 ++ '.' :: atLeastOneDecimal (digits.drop 1) ++ 'e' :: exponentText lead

lemma castText_of_isPositional (h : s.IsPositional) :
    s.castText = s.positional.1 ++ '.' :: atLeastOneDecimal s.positional.2 :=
  if_pos h

lemma castText_of_not_isPositional (h : ¬s.IsPositional) :
    s.castText = (Nat.toDigits 10 s.digits).take 1 ++
      '.' :: (atLeastOneDecimal ((Nat.toDigits 10 s.digits).drop 1) ++
        'e' :: exponentText s.lead) := by
  rw [← List.cons_append, ← List.append_assoc]
  exact if_neg h

/-- The digits among the characters of a positional cast, with zeros in front and behind. -/
lemma exists_filter_castText (h : s.IsPositional) : ∃ front back : Nat,
    s.castText.filter Char.isDigit =
      List.replicate front '0' ++ Nat.toDigits 10 s.digits ++ List.replicate back '0' := by
  obtain ⟨front, back, hdigits⟩ := s.exists_filter_positional
  have htext := s.filter_isDigit_text
  rw [castText_of_isPositional h]
  by_cases hfraction : s.positional.2 = []
  · rw [text, hfraction, Decimal.behindPoint, List.append_nil] at htext
    rw [hfraction, List.append_nil] at hdigits
    refine ⟨front, back + 1, ?_⟩
    rw [hfraction, List.filter_append, htext, hdigits, List.replicate_succ', List.append_assoc]
    rfl
  · rw [text, Decimal.behindPoint_of_ne_nil hfraction] at htext
    refine ⟨front, back, ?_⟩
    rw [atLeastOneDecimal, if_neg (by rwa [List.isEmpty_iff]), htext, hdigits]

lemma isDigit_of_mem_atLeastOneDecimal {c : Char} {fraction : List Char}
    (hfraction : ∀ d ∈ fraction, d.isDigit = true) (h : c ∈ atLeastOneDecimal fraction) :
    c.isDigit = true := by
  rw [atLeastOneDecimal] at h
  split at h
  · rw [List.mem_singleton.mp h]
    decide
  · exact hfraction c h

/-- The exponent is a sign and digits, which are two if they are not more. -/
lemma exists_exponentText (e : Int) : ∃ sign digits, exponentText e = sign :: digits ∧
    sign ∈ ['-', '+'] ∧ (∀ c ∈ digits, c.isDigit = true) ∧
      digits.length = max 2 (Decimal.digitCount e.natAbs) := by
  refine ⟨_, _, rfl, ?_, fun c hc => ?_, ?_⟩
  · split <;> decide
  · rcases List.mem_append.mp hc with hzero | hdigit
    · rw [List.eq_of_mem_replicate hzero]
      decide
    · exact Nat.isDigit_of_mem_toDigits (by decide) (by decide) hdigit
  · rw [List.length_append, List.length_replicate, ← Decimal.digitCount]
    omega

/-- A run of digits in a text with an exponent is not longer than its fraction. -/
lemma length_le_of_infix_castText (h : ¬s.IsPositional) (hfew : s.digits < 10 ^ 15)
    (hlead : s.lead.natAbs < 10 ^ 14) {run : List Char} (hrun : ∀ c ∈ run, c.isDigit = true)
    (hin : run <:+: s.castText) : run.length ≤ 14 := by
  have havoids : ∀ c : Char, c.isDigit = false → c ∉ run := by
    intro c hc hmem
    rw [hrun c hmem] at hc
    cases hc
  have hcount : (Nat.toDigits 10 s.digits).length ≤ 15 :=
    (Nat.length_toDigits_le_iff (by decide) (by decide)).mpr hfew
  have hexponent : Decimal.digitCount s.lead.natAbs ≤ 14 :=
    (Nat.length_toDigits_le_iff (by decide) (by decide)).mpr hlead
  obtain ⟨sign, digits, htext, hsign, -, hlength⟩ := exists_exponentText s.lead
  rw [castText_of_not_isPositional h, htext] at hin
  rcases infix_of_notMem (havoids '.' (by decide)) hin with hfirst | hin
  · have hle := hfirst.length_le
    rw [List.length_take] at hle
    omega
  · rcases infix_of_notMem (havoids 'e' (by decide)) hin with hfraction | hin
    · have hle := hfraction.length_le
      rw [atLeastOneDecimal] at hle
      split at hle
      · exact hle.trans (by decide)
      · rw [List.length_drop] at hle
        omega
    · have hsigned : sign.isDigit = false := by
        rcases List.mem_pair.mp hsign with rfl | rfl <;> decide
      have hin : run <:+: [] ++ sign :: digits := hin
      rcases infix_of_notMem (havoids sign hsigned) hin with hnil | hdigits
      · exact hnil.length_le.trans (Nat.zero_le _)
      · have hle := hdigits.length_le
        omega

/-- In a text with an exponent no zero stands in front of the point. -/
lemma not_infix_castText (h : ¬s.IsPositional) (hpos : 0 < s.digits)
    (fraction : List Char) : ¬ ('0' :: '.' :: fraction) <:+: s.castText := by
  obtain ⟨sign, digits, htext, hsign, hdigits, -⟩ := exists_exponentText s.lead
  obtain ⟨d, ds, hsplit⟩ : ∃ d ds, Nat.toDigits 10 s.digits = d :: ds :=
    List.exists_cons_of_ne_nil Nat.toDigits_ne_nil
  have hd : d ≠ '0' := by
    have hhead := zero_notMem_head?_toDigits hpos
    rw [hsplit] at hhead
    exact fun heq => hhead (heq ▸ rfl)
  have hpoint : ∀ c : Char, c.isDigit = true → '.' ≠ c := by
    rintro _ hc rfl
    cases hc
  have hrest : '.' ∉ atLeastOneDecimal ds ++ 'e' :: sign :: digits := by
    intro hmem
    rcases List.mem_append.mp hmem with hfraction | hexponent
    · refine hpoint '.' (isDigit_of_mem_atLeastOneDecimal (fun c hc => ?_) hfraction) rfl
      exact Nat.isDigit_of_mem_toDigits (by decide) (by decide)
        (hsplit ▸ List.mem_cons_of_mem d hc : c ∈ Nat.toDigits 10 s.digits)
    · simp only [List.mem_cons, List.not_mem_nil, or_false] at hexponent hsign
      rcases hexponent with he | rfl | hmem
      · exact absurd he (by decide)
      · revert hsign
        decide
      · exact hpoint '.' (hdigits '.' hmem) rfl
  rw [castText_of_not_isPositional h, htext, hsplit]
  intro hin
  rcases List.infix_cons_iff.mp hin with hpre | hin
  · exact hd (List.cons_prefix_cons.mp hpre).1.symm
  · rcases List.infix_cons_iff.mp hin with hpre | hin
    · exact absurd (List.cons_prefix_cons.mp hpre).1 (by decide)
    · exact hrest (hin.subset (List.mem_cons_of_mem _ List.mem_cons_self))

/-- A positional text is made of the characters of numerals. -/
lemma isNumeral_text (s : ScaledDigits) : ∀ c ∈ s.text, Text.isNumeral c = true := by
  rw [text, List.forall_mem_append]
  refine ⟨Text.isNumeral_of_digits fun c hc =>
    isDigit_of_mem_positional (List.mem_append_left _ hc), ?_⟩
  have hfraction := Text.isNumeral_of_digits fun c hc =>
    s.isDigit_of_mem_positional (List.mem_append_right _ hc)
  generalize s.positional.2 = fraction at hfraction ⊢
  cases fraction with
  | nil => exact List.forall_mem_nil _
  | cons d ds => exact List.forall_mem_cons.mpr ⟨by decide, hfraction⟩

/-- The text of a cast is made of the characters of numerals. -/
lemma isNumeral_castText (s : ScaledDigits) : ∀ c ∈ s.castText, Text.isNumeral c = true := by
  have hdigit : ∀ c ∈ Nat.toDigits 10 s.digits, c.isDigit = true := fun c =>
    Nat.isDigit_of_mem_toDigits (by decide) (by decide)
  by_cases hpositional : s.IsPositional
  · rw [castText_of_isPositional hpositional, List.forall_mem_append, List.forall_mem_cons]
    refine ⟨Text.isNumeral_of_digits fun c hc =>
      isDigit_of_mem_positional (List.mem_append_left _ hc), by decide,
      Text.isNumeral_of_digits fun c => isDigit_of_mem_atLeastOneDecimal fun d hd =>
        isDigit_of_mem_positional (List.mem_append_right _ hd)⟩
  · obtain ⟨sign, digits, htext, hsign, hdigits, -⟩ := exists_exponentText s.lead
    have hsigned : Text.isNumeral sign = true := by
      rcases List.mem_pair.mp hsign with rfl | rfl <;> decide
    rw [castText_of_not_isPositional hpositional, htext]
    simp only [List.forall_mem_append, List.forall_mem_cons]
    exact ⟨Text.isNumeral_of_digits fun c hc => hdigit c (List.mem_of_mem_take hc), by decide,
      Text.isNumeral_of_digits fun c => isDigit_of_mem_atLeastOneDecimal fun d hd =>
        hdigit d (List.mem_of_mem_drop hd),
      by decide, hsigned, Text.isNumeral_of_digits hdigits⟩

end ScaledDigits

end TableExplorer
