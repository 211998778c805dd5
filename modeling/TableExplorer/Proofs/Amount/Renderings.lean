import TableExplorer.Proofs.Amount.RoundTrip

/-!
The two texts of an amount, the one that people read and the one that programs read.  Both write the
hundredths of the number.  They differ in the separators, and in the minus of numbers that round to
zero: the text for people has a minus only in front of some digit other than zero, the text for
programs has the minus of the number.

* `roundQuotient_eq_zero_iff`: **a quotient rounds to zero** if it is at most a half.
* `Binary64.RoundsToMinusZero`: the numbers whose minus the text for people leaves out.
* `Amount.AgreeingTexts`: how the two texts of a number are related.
* `Amount.agreeingTexts_of_isFinite`: **both texts of an amount denote the same number**, and they
  are the same text up to separators unless the number rounds to zero from below.
-/

namespace TableExplorer

/-- **A quotient rounds to zero** if and only if it is at most a half: a half goes to the even
neighbour. -/
lemma roundQuotient_eq_zero_iff {num den : Nat} (hden : 0 < den) :
    roundQuotient .toEven num den = 0 ↔ 2 * num ≤ den := by
  constructor
  · intro hzero
    have hnear : 2 * Nat.dist num (den * roundQuotient .toEven num den) ≤ den :=
      two_mul_dist_roundQuotient_le hden
    rwa [hzero, Nat.mul_zero, Nat.dist_zero_right] at hnear
  · intro hhalf
    have hlt : num < den := by omega
    rcases roundQuotient_cases .toEven num den with ⟨hr, -⟩ | ⟨hr, hle, heven⟩
    · rw [hr, Nat.div_eq_of_lt hlt]
    · -- only the half itself could go up, and one is not even
      rw [Nat.mod_eq_of_lt hlt] at hle heven
      have hone := heven (le_antisymm hhalf hle) rfl
      rw [Nat.div_eq_of_lt hlt] at hone
      exact absurd hone (by decide)

namespace Binary64

/-- A number with a minus that is at most half a hundredth away from zero. -/
structure RoundsToMinusZero (x : Binary64) : Prop where
  isNegative : x.isNegative = true
  abs_value_le : |x.value| ≤ 1 / 200

/-- A magnitude has no hundredths if it is at most half a hundredth. -/
lemma hundredths_eq_zero_iff (m : Magnitude) :
    m.hundredths .toEven = 0 ↔ (m.quanta : ℚ) / quantaPerUnit ≤ 1 / 200 := by
  have hcast : (m.quanta : ℚ) / quantaPerUnit ≤ 1 / 200 ↔
      ((m.quanta * 200 : Nat) : ℚ) ≤ quantaPerUnit := by
    rw [div_le_div_iff₀ cast_quantaPerUnit_pos (by norm_num), one_mul, Nat.cast_mul,
      Nat.cast_ofNat]
  rw [Magnitude.hundredths, roundQuotient_eq_zero_iff quantaPerUnit_pos, hcast, Nat.cast_le]
  omega

/-- A finite number rounds to zero from below if it has a minus and no hundredths. -/
lemma roundsToMinusZero_finite_iff (negative : Bool) (m : Magnitude) :
    RoundsToMinusZero (.finite negative m) ↔ negative = true ∧ m.hundredths .toEven = 0 := by
  have hvalue : |value (.finite negative m)| = (m.quanta : ℚ) / quantaPerUnit := by
    rw [value, abs_signed]
    exact abs_of_nonneg (div_nonneg (Nat.cast_nonneg _) cast_quantaPerUnit_pos.le)
  rw [hundredths_eq_zero_iff, ← hvalue]
  exact ⟨fun h => ⟨h.isNegative, h.abs_value_le⟩, fun h => ⟨h.1, h.2⟩⟩

end Binary64

namespace Amount

/-- How the two texts of an amount are related.  The text for programs is that for people without
the points between groups and with a point for the comma, behind a minus where the number rounds to
zero from below; both are numerals of the same value, and programs read the same number from
them. -/
structure AgreeingTexts (x : Binary64) : Prop where
  text_eq : ¬x.RoundsToMinusZero →
    (writeExport x).toList = commaToPoint (writeLocale x).toList
  minus : x.RoundsToMinusZero →
    (writeExport x).toList = '-' :: commaToPoint (writeLocale x).toList
  denote : ∃ d e, Decimal.ofChars? (writeExport x).toList = some d ∧
    Decimal.ofChars? (commaToPoint (writeLocale x).toList) = some e ∧ d.value = e.value ∧
    d.negative = x.isNegative ∧ (e.negative = x.isNegative ↔ ¬x.RoundsToMinusZero)
  read : ∃ y z, readFinite? (writeExport x).toList = some y ∧
    readLocale? (writeLocale x) = some z ∧ y.value = z.value ∧
    (y = z ↔ ¬x.RoundsToMinusZero)

section

variable (negative : Bool) (m : Binary64.Magnitude)

/-- The text for people without its separators. -/
lemma commaToPoint_writeLocale : commaToPoint (writeLocale (.finite negative m)).toList =
    (Binary64.signText (negative && decide (m.hundredths .toEven ≠ 0))).toList ++
      m.twoPlaces.toList := by
  obtain ⟨t, htext, hdigits, hsign⟩ := exists_writeLocale negative m
  rw [htext, t.commaToPoint_chars, hdigits, hsign]

/-- The text for people is read as the number nearest to its hundredths. -/
lemma readLocale?_writeLocale : readLocale? (writeLocale (.finite negative m)) =
    some (Decimal.toBinary64
      ⟨negative && decide (m.hundredths .toEven ≠ 0), m.hundredths .toEven, -2⟩) := by
  obtain ⟨t, htext, hdigits, hsign⟩ := exists_writeLocale negative m
  rw [readLocale?, htext, ← hsign]
  refine GroupedText.readLocaleChars?_chars ?_
  rw [hdigits]
  exact readFinite?_of_isFinite (Binary64.ofChars?_twoPlaces _ m)
    (Binary64.isFinite_hundredths _ m .toEven)

/-- The two zeros are different numbers. -/
lemma toBinary64_minusZero_ne : Decimal.toBinary64 ⟨true, 0, -2⟩ ≠
    Decimal.toBinary64 ⟨false, 0, -2⟩ := by
  decide +kernel

/-- The texts of a finite number agree. -/
lemma agreeingTexts_finite : AgreeingTexts (.finite negative m) := by
  have hexport : (writeExport (.finite negative m)).toList =
      (Binary64.signText negative).toList ++ m.twoPlaces.toList := String.toList_append
  have hlocale := commaToPoint_writeLocale negative m
  have hnumeral := fun sign => Binary64.ofChars?_twoPlaces sign m
  have hread := fun sign => readFinite?_of_isFinite (hnumeral sign)
    (Binary64.isFinite_hundredths sign m .toEven)
  have hnearest := fun sign => Decimal.isNearest_toBinary64
    (Binary64.isFinite_hundredths sign m .toEven)
  have hvalue := value_hundredths_eq negative (m.hundredths .toEven)
  -- only the minus of a number without hundredths is left out
  have hsign : ¬(Binary64.finite negative m).RoundsToMinusZero ↔
      (negative && decide (m.hundredths .toEven ≠ 0)) = negative := by
    rw [Binary64.roundsToMinusZero_finite_iff]
    cases negative <;> simp
  refine ⟨fun h => ?_, fun h => ?_,
    ⟨⟨negative, m.hundredths .toEven, -2⟩, _, ?_, ?_, hvalue.symm, rfl, hsign.symm⟩,
    ⟨Decimal.toBinary64 ⟨negative, m.hundredths .toEven, -2⟩, _, ?_,
      readLocale?_writeLocale negative m, ?_, ?_⟩⟩
  · rw [hexport, hlocale, hsign.mp h]
  · obtain ⟨rfl, hzero⟩ := (Binary64.roundsToMinusZero_finite_iff negative m).mp h
    rw [hexport, hlocale, hzero]
    rfl
  · rw [hexport, hnumeral]
  · rw [hlocale, hnumeral]
  · rw [hexport, hread]
  · have hlocaleNearest := hnearest (negative && decide (m.hundredths .toEven ≠ 0))
    rw [hvalue] at hlocaleNearest
    exact (hnearest negative).value_unique hlocaleNearest
  · rw [hsign]
    constructor
    · intro heq
      by_contra hne
      obtain ⟨rfl, hzero⟩ := (Binary64.roundsToMinusZero_finite_iff negative m).mp
        (not_not.mp (mt hsign.mp hne))
      rw [hzero] at heq
      exact toBinary64_minusZero_ne heq
    · intro heq
      rw [heq]

end

/-- **Both texts of an amount denote the same number**: for every finite number, the text for
programs is the one for people without its grouping and with a decimal point, up to the minus of
numbers that round to zero. -/
theorem agreeingTexts_of_isFinite {x : Binary64} (h : x.isFinite = true) : AgreeingTexts x := by
  obtain ⟨negative, m, rfl⟩ := Binary64.exists_of_isFinite h
  exact agreeingTexts_finite negative m

/-- The texts of an amount of seven digits with a minus agree. -/
theorem agreeingTexts_of_negativeAmount :
    writeLocale (Decimal.toBinary64 ⟨true, 12345675, -1⟩) = "-1.234.567,50" ∧
      writeExport (Decimal.toBinary64 ⟨true, 12345675, -1⟩) = "-1234567.50" ∧
      AgreeingTexts (Decimal.toBinary64 ⟨true, 12345675, -1⟩) :=
  ⟨by decide +kernel, by decide +kernel, agreeingTexts_of_isFinite (by decide +kernel)⟩

/-- A thousandth below zero keeps its minus in the text for programs only. -/
theorem writeExport_of_minusThousandth :
    (Decimal.toBinary64 ⟨true, 1, -3⟩).isFinite = true ∧
      writeLocale (Decimal.toBinary64 ⟨true, 1, -3⟩) = "0,00" ∧
      writeExport (Decimal.toBinary64 ⟨true, 1, -3⟩) = "-0.00" ∧
      (writeExport (Decimal.toBinary64 ⟨true, 1, -3⟩)).toList ≠
        commaToPoint (writeLocale (Decimal.toBinary64 ⟨true, 1, -3⟩)).toList := by
  refine ⟨?_, ?_, ?_, ?_⟩ <;> decide +kernel

end Amount

end TableExplorer
