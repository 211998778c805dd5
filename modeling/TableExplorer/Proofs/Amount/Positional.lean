import Mathlib
import TableExplorer.Proofs.Amount.RoundTrip
import TableExplorer.Proofs.Numeral.Thousandths

/-!
Texts of numbers read as amounts.  The text of a number is positional: a sign, digits, and further
digits behind a point, if there are any.  It follows the euro pattern if there are at most three
digits in front of the point and none or three behind it; the latter are then taken for a group, so
that what is read is the whole number of all digits.

* `Amount.isEuro_positional`: **which positional texts follow the euro pattern**.
* `Amount.readEuro?_positional`: **what they are read as**.
-/

namespace TableExplorer

namespace Amount

variable {whole fraction : List Char}

/-! ### Positional texts of the euro pattern -/

/-- A digit does not begin a group or decimals. -/
lemma isEuroTail_digit {c : Char} (h : c.isDigit = true) (rest : List Char) :
    isEuroTail (c :: rest) = false := by
  unfold isEuroTail
  split
  · rename_i heq
    cases heq
  · rename_i heq
    rw [(List.cons.inj heq).1] at h
    exact absurd h (by decide)
  · rename_i heq
    rw [(List.cons.inj heq).1] at h
    exact absurd h (by decide)
  · rfl

/-- A fraction behind a point looks like a group if it has three digits. -/
lemma isEuroTail_behindPoint (h : ∀ c ∈ fraction, c.isDigit = true) :
    isEuroTail (Decimal.behindPoint fraction) = true ↔ fraction = [] ∨ fraction.length = 3 := by
  match fraction, h with
  | [], _ => exact iff_of_true rfl (Or.inl rfl)
  | [a], _ => exact iff_of_false Bool.false_ne_true (by simp)
  | [a, b], _ => exact iff_of_false Bool.false_ne_true (by simp)
  | [a, b, c], h =>
      refine iff_of_true ?_ (Or.inr rfl)
      have hdigit := fun d hd => Text.isDecimalDigit_of_isDigit (h d hd)
      rw [Decimal.behindPoint, isEuroTail, hdigit a (by simp), hdigit b (by simp),
        hdigit c (by simp)]
      rfl
  | a :: b :: c :: d :: rest, h =>
      refine iff_of_false ?_ (by simp)
      rw [Decimal.behindPoint, isEuroTail, isEuroTail_digit (h d (by simp)), Bool.and_false]
      exact Bool.false_ne_true

/-- **A positional text follows the euro pattern** if it has at most three digits in front of the
point, and no decimals or three. -/
lemma isEuro_positional (negative : Bool) (hne : whole ≠ [])
    (hdigits : ∀ c ∈ whole ++ fraction, c.isDigit = true) :
    isEuro ((Binary64.signText negative).toList ++ (whole ++ Decimal.behindPoint fraction)) =
        true ↔ whole.length ≤ 3 ∧ (fraction = [] ∨ fraction.length = 3) := by
  have hwhole : ∀ c ∈ whole, c.isDigit = true := fun c hc =>
    hdigits c (List.mem_append_left _ hc)
  have hspan : (whole ++ Decimal.behindPoint fraction).span Text.isDecimalDigit =
      (whole, Decimal.behindPoint fraction) := by
    refine span_append (fun c hc => Text.isDecimalDigit_of_isDigit (hwhole c hc)) fun c hc => ?_
    cases fraction with
    | nil => cases hc
    | cons d ds =>
        cases hc
        decide +kernel
  have hpos : 1 ≤ whole.length := List.length_pos_iff.mpr hne
  rw [isEuro, dropMinus_signText negative hne hwhole]
  simp only [hspan, Bool.and_eq_true, decide_eq_true_iff, hpos, true_and]
  rw [isEuroTail_behindPoint fun c hc => hdigits c (List.mem_append_right _ hc)]

/-- A positional text has a point if it has decimals. -/
lemma point_mem_positional (negative : Bool)
    (hdigits : ∀ c ∈ whole ++ fraction, c.isDigit = true) :
    '.' ∈ (Binary64.signText negative).toList ++ (whole ++ Decimal.behindPoint fraction) ↔
      fraction ≠ [] := by
  constructor
  · rintro hpoint rfl
    rw [Decimal.behindPoint, List.mem_append] at hpoint
    rcases hpoint with hpoint | hpoint
    · cases negative <;> revert hpoint <;> decide
    · exact absurd (hdigits _ hpoint) (by decide)
  · intro hfraction
    rw [Decimal.behindPoint_of_ne_nil hfraction]
    simp

/-- There are no blanks in a positional text. -/
lemma trimEnds_positional (negative : Bool)
    (hdigits : ∀ c ∈ whole ++ fraction, c.isDigit = true) :
    Text.trimEnds Text.isBlank
        ((Binary64.signText negative).toList ++ (whole ++ Decimal.behindPoint fraction)) =
      (Binary64.signText negative).toList ++ (whole ++ Decimal.behindPoint fraction) := by
  refine Text.trimEnds_eq_self fun c hc => ?_
  rw [List.mem_append, List.mem_append] at hc
  rcases hc with hc | hc | hc
  · cases negative <;> cases hc
    · decide
    · rename_i hc
      cases hc
  · exact Text.isBlank_of_isDigit (hdigits c (List.mem_append_left _ hc))
  · cases fraction with
    | nil => cases hc
    | cons d ds =>
        rcases List.mem_cons.mp hc with rfl | hc
        · decide
        · exact Text.isBlank_of_isDigit (hdigits c (List.mem_append_right _ hc))

/-- Reading takes the point for the beginning of a group. -/
lemma commaToPoint_positional (negative : Bool)
    (hdigits : ∀ c ∈ whole ++ fraction, c.isDigit = true) :
    commaToPoint
        ((Binary64.signText negative).toList ++ (whole ++ Decimal.behindPoint fraction)) =
      (Binary64.signText negative).toList ++ (whole ++ fraction) := by
  have hsign : commaToPoint (Binary64.signText negative).toList =
      (Binary64.signText negative).toList := by
    cases negative <;> rfl
  have hfraction : commaToPoint (Decimal.behindPoint fraction) = commaToPoint fraction := by
    cases fraction <;> rfl
  rw [GroupedText.commaToPoint_append, GroupedText.commaToPoint_append, hsign, hfraction,
    ← GroupedText.commaToPoint_append,
    GroupedText.commaToPoint_of_digits fun c hc => Text.isDecimalDigit_of_isDigit (hdigits c hc)]

end Amount

/-! ### Reading the text of a number as an amount -/

namespace Amount

variable {text : String} {negative : Bool} {whole fraction : List Char}

/-- The digits of a text of the euro pattern that comes from a number are few. -/
lemma digitsValue_lt_of_isEuro (hne : whole ≠ [])
    (hdigits : ∀ c ∈ whole ++ fraction, c.isDigit = true)
    (htext : text.toList =
      (Binary64.signText negative).toList ++ (whole ++ Decimal.behindPoint fraction))
    (h : isEuro text.toList = true) : Decimal.digitsValue (whole ++ fraction) < 2 ^ 53 := by
  rw [htext, isEuro_positional negative hne hdigits] at h
  rw [Decimal.digitsValue_eq]
  refine (Decimal.ofDigitChars_lt hdigits).trans_le ?_
  calc 10 ^ (whole ++ fraction).length ≤ 10 ^ 6 := by
        refine Nat.pow_le_pow_right (by decide) ?_
        rw [List.length_append]
        rcases h with ⟨hwhole, rfl | hfraction⟩
        · rw [List.length_nil]
          omega
        · omega
    _ ≤ 2 ^ 53 := by decide

/-- **A text of the euro pattern that comes from a number is read as a whole number**, the one that
its digits denote. -/
lemma readEuro?_positional (hne : whole ≠ []) (hdigits : ∀ c ∈ whole ++ fraction, c.isDigit = true)
    (htext : text.toList =
      (Binary64.signText negative).toList ++ (whole ++ Decimal.behindPoint fraction))
    (h : isEuro text.toList = true) :
    readEuro? text = some (.ofRatio negative (Decimal.digitsValue (whole ++ fraction)) 1) := by
  have hread : Decimal.ofChars? ((Binary64.signText negative).toList ++ (whole ++ fraction)) =
      some ⟨negative, Decimal.digitsValue (whole ++ fraction), 0⟩ := by
    have hne' : whole ++ fraction ≠ [] := fun hnil => hne (List.append_eq_nil_iff.mp hnil).1
    have hall : ∀ c ∈ (whole ++ fraction) ++ [], c.isDigit = true := by
      rwa [List.append_nil]
    have hpositional := Decimal.ofChars?_positional negative hne' hall
    rw [Decimal.behindPoint, List.append_nil] at hpositional
    exact hpositional
  have hfinite : (Decimal.toBinary64
      ⟨negative, Decimal.digitsValue (whole ++ fraction), 0⟩).isFinite = true := by
    rw [Decimal.toBinary64_whole,
      Binary64.ofRatio_whole negative (digitsValue_lt_of_isEuro hne hdigits htext h)]
    rfl
  rw [readEuro?, readEuroChars?, htext, trimEnds_positional negative hdigits, if_pos (htext ▸ h),
    commaToPoint_positional negative hdigits, readFinite?_of_isFinite hread hfinite,
    Decimal.toBinary64_whole]

end Amount

end TableExplorer
