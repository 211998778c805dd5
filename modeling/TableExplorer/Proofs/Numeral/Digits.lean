import Mathlib
import TableExplorer.Amount.Reading
import TableExplorer.Amount.Writing

/-!
Digits.  A number is written as a whole part and a fraction, both of ASCII digits, and a text of a
sign, a whole part and a fraction behind a point is read back as the decimal that these digits
denote.

* `ScaledDigits.digitsValue_positional`: **the positional digits denote the number**;
  `ScaledDigits.length_fraction`: the fraction has as many digits as the exponent says.
* `Decimal.ofChars?_positional`: **the decimal that a positional text is read as**.
* `Binary64.ofChars?_twoPlaces`: **a text with two decimals is read as its hundredths**.
-/

namespace TableExplorer

/-! ### Runs -/

/-- A run of items, and what follows the first other one. -/
lemma span_append {α : Type} {p : α → Bool} {xs ys : List α} (hxs : ∀ x ∈ xs, p x = true)
    (hys : ∀ y ∈ ys.head?, p y = false) : (xs ++ ys).span p = (xs, ys) := by
  rw [List.span_eq_takeWhile_dropWhile, List.takeWhile_append_of_pos hxs,
    List.dropWhile_append_of_pos hxs]
  cases ys with
  | nil => rw [List.takeWhile_nil, List.append_nil, List.dropWhile_nil]
  | cons y ys =>
      have hy : ¬p y = true := Bool.eq_false_iff.mp (hys y rfl)
      rw [List.takeWhile_cons_of_neg hy, List.append_nil, List.dropWhile_cons_of_neg hy]

namespace Text

variable {c : Char}

/-- A text without items to drop at its ends is not cut. -/
lemma trimEnds_eq_self {α : Type} {p : α → Bool} {xs : List α} (h : ∀ x ∈ xs, p x = false) :
    trimEnds p xs = xs := by
  have hdrop : ∀ ys : List α, (∀ y ∈ ys, p y = false) → ys.dropWhile p = ys := by
    intro ys hys
    cases ys with
    | nil => rfl
    | cons y ys =>
        exact List.dropWhile_cons_of_neg (Bool.eq_false_iff.mp (hys y List.mem_cons_self))
  rw [trimEnds, hdrop xs h, hdrop _ fun x hx => h x (List.mem_reverse.mp hx), List.reverse_reverse]

/-- The ASCII digits are decimal digits. -/
lemma isDecimalDigit_of_isDigit (h : c.isDigit = true) : isDecimalDigit c = true := by
  have hruns : ∀ n < 10, inRuns decimalDigitRuns ('0'.toNat + n) = true := by decide +kernel
  obtain ⟨hlow, hhigh⟩ := Char.isDigit_iff_toNat.mp h
  have hnine : '9'.toNat = '0'.toNat + 9 := rfl
  have hrun := hruns (c.toNat - '0'.toNat) (by omega)
  rwa [Nat.add_sub_cancel' hlow] at hrun

/-- A decimal digit is no blank. -/
lemma isBlank_of_isDecimalDigit (h : isDecimalDigit c = true) : isBlank c = false := by
  have hcontrol : ∀ n < 0x0E, inRuns decimalDigitRuns n = false := by decide +kernel
  have hspaces : ∀ n < 0x0B, inRuns decimalDigitRuns (0x2000 + n) = false := by decide +kernel
  have hothers : ∀ n ∈ [0x20, 0x85, 0xA0, 0x1680, 0x2028, 0x2029, 0x202F, 0x205F, 0x3000],
      inRuns decimalDigitRuns n = false := by decide +kernel
  -- the blanks are few, so they are tried one by one
  by_contra hblank
  rw [Bool.not_eq_false, isBlank] at hblank
  simp only [Bool.or_eq_true, Bool.and_eq_true, decide_eq_true_iff, beq_iff_eq] at hblank
  have hnone : inRuns decimalDigitRuns c.toNat = false := by
    by_cases hlow : c.toNat < 0x0E
    · exact hcontrol _ hlow
    · by_cases hspace : 0x2000 ≤ c.toNat ∧ c.toNat ≤ 0x200A
      · have hrun := hspaces (c.toNat - 0x2000) (by omega)
        rwa [Nat.add_sub_cancel' hspace.1] at hrun
      · refine hothers _ ?_
        simp only [List.mem_cons, List.not_mem_nil, or_false]
        omega
  rw [isDecimalDigit, hnone] at h
  cases h

/-- Digits are no blanks. -/
lemma isBlank_of_isDigit (h : c.isDigit = true) : isBlank c = false :=
  isBlank_of_isDecimalDigit (isDecimalDigit_of_isDigit h)

end Text

/-! ### Values of digits -/

namespace Decimal

variable {whole fraction : List Char}

lemma digitsValue_eq (cs : List Char) : digitsValue cs = Nat.ofDigitChars 10 cs 0 := by
  unfold digitsValue Nat.ofDigitChars
  congr 1
  funext n c
  rw [digitValue, Nat.mul_comm]

/-- A number is less than the power of ten of its digits. -/
lemma ofDigitChars_lt {cs : List Char} (h : ∀ c ∈ cs, c.isDigit = true) :
    Nat.ofDigitChars 10 cs 0 < 10 ^ cs.length := by
  induction cs with
  | nil => decide
  | cons c cs ih =>
      have hc := Char.isDigit_iff_toNat.mp (h c List.mem_cons_self)
      have hrest := ih fun d hd => h d (List.mem_cons_of_mem _ hd)
      have hlead : c.toNat - '0'.toNat ≤ 9 := Nat.sub_le_of_le_add hc.2
      rw [Nat.ofDigitChars_cons, Nat.ofDigitChars_eq_ofDigitChars_zero, List.length_cons,
        Nat.pow_succ, Nat.mul_zero, Nat.zero_add]
      calc 10 ^ cs.length * (c.toNat - '0'.toNat) + Nat.ofDigitChars 10 cs 0
          < 10 ^ cs.length * (c.toNat - '0'.toNat) + 10 ^ cs.length :=
            Nat.add_lt_add_left hrest _
        _ ≤ 10 ^ cs.length * 9 + 10 ^ cs.length :=
            Nat.add_le_add_right (Nat.mul_le_mul_left _ hlead) _
        _ = 10 ^ cs.length * 10 := by ring

/-- Digits in front count by the power of ten of those behind them. -/
lemma digitsValue_append (as bs : List Char) :
    digitsValue (as ++ bs) = 10 ^ bs.length * digitsValue as + digitsValue bs := by
  rw [digitsValue_eq, digitsValue_eq, digitsValue_eq, Nat.ofDigitChars_append,
    Nat.ofDigitChars_eq_ofDigitChars_zero]

lemma digitsValue_toDigits (n : Nat) : digitsValue (Nat.toDigits 10 n) = n := by
  rw [digitsValue_eq, Nat.ofDigitChars_ten_toDigits]

lemma digitsValue_replicate_zero (n : Nat) : digitsValue (List.replicate n '0') = 0 := by
  rw [digitsValue_eq, Nat.ofDigitChars_replicate_zero, Nat.mul_zero]

/-! ### Reading -/

/-- A fraction behind a point; no point if there is no fraction. -/
def behindPoint : List Char → List Char
  | [] => []
  | d :: ds => '.' :: d :: ds

lemma behindPoint_of_ne_nil (h : fraction ≠ []) : behindPoint fraction = '.' :: fraction := by
  obtain ⟨d, ds, rfl⟩ := List.exists_cons_of_ne_nil h
  rfl

/-- What stands behind a point is the fraction. -/
lemma splitFraction_behindPoint (h : ∀ c ∈ fraction, c.isDigit = true) :
    splitFraction (behindPoint fraction) = (fraction, []) := by
  cases fraction with
  | nil => rfl
  | cons d ds =>
      have hspan : (d :: ds ++ []).span Char.isDigit = (d :: ds, []) :=
        span_append h fun y hy => nomatch hy
      rw [List.append_nil] at hspan
      exact hspan

@[simp] lemma toList_signText_true : (Binary64.signText true).toList = ['-'] := rfl

@[simp] lemma toList_signText_false : (Binary64.signText false).toList = [] := rfl

/-- A minus is split off, and nothing else in front of digits is. -/
lemma splitSign_signText (negative : Bool) (hne : whole ≠ [])
    (hdigits : ∀ c ∈ whole, c.isDigit = true) (rest : List Char) :
    splitSign ((Binary64.signText negative).toList ++ (whole ++ rest)) =
      (negative, whole ++ rest) := by
  obtain ⟨c, cs, rfl⟩ := List.exists_cons_of_ne_nil hne
  have hc := hdigits c List.mem_cons_self
  cases negative with
  | true => rfl
  | false =>
      have hminus : c ≠ '-' := by
        rintro rfl
        exact absurd hc (by decide)
      have hplus : c ≠ '+' := by
        rintro rfl
        exact absurd hc (by decide)
      show splitSign (c :: (cs ++ rest)) = _
      unfold splitSign
      split
      · rename_i heq
        exact absurd (List.cons.inj heq).1 hminus
      · rename_i heq
        exact absurd (List.cons.inj heq).1 hplus
      · rfl

/-- **The decimal that a positional text is read as.** -/
theorem ofChars?_positional (negative : Bool) (hne : whole ≠ [])
    (hdigits : ∀ c ∈ whole ++ fraction, c.isDigit = true) :
    ofChars? ((Binary64.signText negative).toList ++ (whole ++ behindPoint fraction)) =
      some ⟨negative, digitsValue (whole ++ fraction), -fraction.length⟩ := by
  have hwhole : ∀ c ∈ whole, c.isDigit = true := fun c hc =>
    hdigits c (List.mem_append_left _ hc)
  have hfraction : ∀ c ∈ fraction, c.isDigit = true := fun c hc =>
    hdigits c (List.mem_append_right _ hc)
  have hspan : (whole ++ behindPoint fraction).span Char.isDigit =
      (whole, behindPoint fraction) := by
    refine span_append hwhole fun y hy => ?_
    cases fraction with
    | nil => cases hy
    | cons d ds =>
        cases hy
        decide
  have hempty : whole.isEmpty = false := List.isEmpty_eq_false_iff.mpr hne
  rw [ofChars?, splitSign_signText negative hne hwhole]
  simp only [hspan, splitFraction_behindPoint hfraction, hempty, Bool.false_and,
    Bool.false_eq_true, if_false, readExponent?, Option.bind_eq_bind, Option.bind_some,
    Option.pure_def, zero_sub]

end Decimal

/-! ### Writing -/

/-- The text of an integer. -/
lemma toList_toString_int (i : Int) :
    (toString i).toList = (Binary64.signText (decide (i < 0))).toList ++
      (Nat.toDigits 10 i.natAbs ++ Decimal.behindPoint []) := by
  rw [Int.toString_eq_repr, Int.repr_eq_if, Decimal.behindPoint, List.append_nil]
  rcases lt_or_ge i 0 with hneg | hnonneg
  · have habs : (-i).toNat = i.natAbs := by omega
    rw [if_neg (not_le.mpr hneg), decide_eq_true hneg, habs, Nat.repr_eq_ofList_toDigits,
      String.toList_append, String.toList_ofList, String.toList_ofList,
      Decimal.toList_signText_true]
  · have habs : i.toNat = i.natAbs := by omega
    rw [if_pos hnonneg, decide_eq_false (not_lt.mpr hnonneg), habs, Nat.repr_eq_ofList_toDigits,
      String.toList_ofList, Decimal.toList_signText_false, List.nil_append]

namespace ScaledDigits

variable {s : ScaledDigits} {c : Char}

/-- The digits with zeros in front, as many as the exponent needs. -/
lemma positional_of_neg (h : s.exponent < 0) :
    ∃ zeros,
      s.positional.1 ++ s.positional.2 = List.replicate zeros '0' ++ Nat.toDigits 10 s.digits ∧
      s.positional.1 ≠ [] ∧ s.positional.2.length = (-s.exponent).toNat := by
  rw [positional]
  dsimp only
  rw [if_neg (not_le.mpr h)]
  refine ⟨_, List.take_append_drop _ _, ?_, ?_⟩
  · rw [Ne, List.take_eq_nil_iff]
    simp only [List.length_append, List.length_replicate, List.append_eq_nil_iff, not_or, not_and]
    exact ⟨by omega, fun _ => Nat.toDigits_ne_nil⟩
  · rw [List.length_drop, List.length_append, List.length_replicate]
    omega

/-- The digits with zeros behind them, as many as the exponent says. -/
lemma positional_of_nonneg (h : 0 ≤ s.exponent) :
    s.positional = (Nat.toDigits 10 s.digits ++ List.replicate s.exponent.toNat '0', []) := by
  rw [positional]
  exact if_pos h

/-- The whole part and the fraction consist of digits. -/
lemma isDigit_of_mem_positional (h : c ∈ s.positional.1 ++ s.positional.2) :
    c.isDigit = true := by
  have hzero : ∀ zeros, c ∈ List.replicate zeros '0' → c.isDigit = true := by
    intro zeros hc
    rw [List.eq_of_mem_replicate hc]
    decide
  have hdigit : c ∈ Nat.toDigits 10 s.digits → c.isDigit = true :=
    Nat.isDigit_of_mem_toDigits (by decide) (by decide)
  rcases lt_or_ge s.exponent 0 with hneg | hnonneg
  · obtain ⟨zeros, heq, -⟩ := positional_of_neg hneg
    rw [heq, List.mem_append] at h
    exact h.elim (hzero zeros) hdigit
  · rw [positional_of_nonneg hnonneg, List.append_nil, List.mem_append] at h
    exact h.elim hdigit (hzero _)

/-- There is a whole part. -/
lemma whole_ne_nil (s : ScaledDigits) : s.positional.1 ≠ [] := by
  rcases lt_or_ge s.exponent 0 with hneg | hnonneg
  · obtain ⟨zeros, -, hne, -⟩ := positional_of_neg hneg
    exact hne
  · rw [positional_of_nonneg hnonneg]
    exact fun h => Nat.toDigits_ne_nil (List.append_eq_nil_iff.mp h).1

/-- The fraction has as many digits as the exponent says. -/
lemma length_fraction (s : ScaledDigits) : s.positional.2.length = (-s.exponent).toNat := by
  rcases lt_or_ge s.exponent 0 with hneg | hnonneg
  · obtain ⟨zeros, -, -, hlength⟩ := positional_of_neg hneg
    exact hlength
  · rw [positional_of_nonneg hnonneg, List.length_nil]
    omega

/-- **The positional digits denote the number**, up to the power of ten of the fraction. -/
lemma digitsValue_positional (s : ScaledDigits) :
    Decimal.digitsValue (s.positional.1 ++ s.positional.2) = s.digits * 10 ^ s.exponent.toNat := by
  rcases lt_or_ge s.exponent 0 with hneg | hnonneg
  · obtain ⟨zeros, heq, -⟩ := positional_of_neg hneg
    have hzero : s.exponent.toNat = 0 := by omega
    rw [heq, Decimal.digitsValue_append, Decimal.digitsValue_replicate_zero,
      Decimal.digitsValue_toDigits, hzero, Nat.pow_zero, Nat.mul_one, Nat.mul_zero, Nat.zero_add]
  · rw [positional_of_nonneg hnonneg, List.append_nil, Decimal.digitsValue_append,
      Decimal.digitsValue_replicate_zero, Decimal.digitsValue_toDigits, List.length_replicate,
      Nat.add_zero, Nat.mul_comm]

end ScaledDigits

/-! ### Two decimals -/

namespace Binary64

/-- The digits of so many hundredths are digits. -/
lemma isDigit_of_mem_hundredthsDigits {n : Nat} {c : Char}
    (h : c ∈ (hundredthsDigits n).1 ++ (hundredthsDigits n).2) : c.isDigit = true :=
  ScaledDigits.isDigit_of_mem_positional h

/-- There are two decimals. -/
lemma length_decimals (n : Nat) : (hundredthsDigits n).2.length = 2 :=
  ScaledDigits.length_fraction ⟨n, -2⟩

lemma decimals_ne_nil (n : Nat) : (hundredthsDigits n).2 ≠ [] := by
  intro h
  have hlength := length_decimals n
  rw [h] at hlength
  cases hlength

/-- There is a whole part. -/
lemma whole_ne_nil (n : Nat) : (hundredthsDigits n).1 ≠ [] := ScaledDigits.whole_ne_nil ⟨n, -2⟩

/-- The digits denote the number of hundredths. -/
lemma digitsValue_hundredthsDigits (n : Nat) :
    Decimal.digitsValue ((hundredthsDigits n).1 ++ (hundredthsDigits n).2) = n := by
  rw [hundredthsDigits, ScaledDigits.digitsValue_positional]
  exact Nat.mul_one n

lemma toList_twoPlaces (m : Magnitude) :
    m.twoPlaces.toList = (hundredthsDigits (m.hundredths .toEven)).1 ++
      '.' :: (hundredthsDigits (m.hundredths .toEven)).2 := by
  rw [Magnitude.twoPlaces, String.toList_ofList]

/-- **A text with two decimals is read as its hundredths.** -/
lemma ofChars?_twoPlaces (negative : Bool) (m : Magnitude) :
    Decimal.ofChars? ((signText negative).toList ++ m.twoPlaces.toList) =
      some ⟨negative, m.hundredths .toEven, -2⟩ := by
  have hread := Decimal.ofChars?_positional negative (whole_ne_nil (m.hundredths .toEven))
    fun c => isDigit_of_mem_hundredthsDigits
  rw [digitsValue_hundredthsDigits, length_decimals,
    Decimal.behindPoint_of_ne_nil (decimals_ne_nil _)] at hread
  rw [toList_twoPlaces]
  exact hread

end Binary64

end TableExplorer
