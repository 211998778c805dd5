import Mathlib
import TableExplorer.Export.Basic
import TableExplorer.Proofs.Amount.Positional
import TableExplorer.Proofs.Numeral.ReadBack

/-!
Exporting numbers.  A number is exported through its text: if the text follows the euro pattern, it
is read as an amount and written with two decimals; otherwise the text itself is exported.  The text
of a number follows the pattern if it has at most three digits in front of the point and either no
decimals, in which case the number is kept, or exactly three, in which case they are taken for a
group and the number is multiplied by a thousand.

* `ExportCell.LooksGrouped`: the texts that are taken for grouped ones.
* `ExportCell.render_number`: **what integers and finite reals are exported as**.
-/

namespace TableExplorer

/-! ### Exporting -/

namespace ExportCell

variable {v : Value} {x : Binary64}

/-- The text is a number with a point and two decimals. -/
def HasTwoDecimals (text : String) : Prop :=
  ∃ (negative : Bool) (whole decimals : List Char),
    text.toList = (Binary64.signText negative).toList ++ (whole ++ '.' :: decimals) ∧
    whole ≠ [] ∧ decimals.length = 2 ∧ ∀ c ∈ whole ++ decimals, c.isDigit = true

/-- A number with two decimals has a point. -/
lemma HasTwoDecimals.point_mem {text : String} (h : HasTwoDecimals text) : '.' ∈ text.toList := by
  obtain ⟨negative, whole, decimals, htext, -⟩ := h
  rw [htext]
  simp

/-- What is written with two decimals has two decimals. -/
lemma hasTwoDecimals_twoPlaces (negative : Bool) (m : Binary64.Magnitude) :
    HasTwoDecimals (Binary64.twoPlaces (.finite negative m)) := by
  refine ⟨negative, _, _, ?_, Binary64.whole_ne_nil (m.hundredths .toEven),
    Binary64.length_decimals _, fun c => Binary64.isDigit_of_mem_hundredthsDigits⟩
  rw [Binary64.twoPlaces, String.toList_append, Binary64.toList_twoPlaces]

/-- A value that reads as an amount is exported with two decimals. -/
lemma render_of_readEuro? (hv : v.isNull = false) (h : Amount.readEuro? v.display = some x) :
    (ofValue v).render = x.twoPlaces := by
  rw [ofValue, hv, if_neg Bool.false_ne_true, h]
  rfl

/-- A value whose text does not follow the euro pattern is exported as it is shown. -/
lemma render_of_isEuro_eq_false (hv : v.isNull = false)
    (h : Amount.isEuro (Text.trimEnds Text.isBlank v.display.toList) = false) :
    (ofValue v).render = v.display := by
  have hread : Amount.readEuro? v.display = none := by
    rw [Amount.readEuro?, Amount.readEuroChars?, h]
    rfl
  rw [ofValue, hv, if_neg Bool.false_ne_true, hread]
  rfl

end ExportCell

/-! ### Integers -/

/-- The text of an integer consists of digits, behind its sign. -/
lemma isDigit_of_mem_toDigits_append_nil {n : Nat} {c : Char}
    (h : c ∈ Nat.toDigits 10 n ++ []) : c.isDigit = true := by
  rw [List.append_nil] at h
  exact Nat.isDigit_of_mem_toDigits (by decide) (by decide) h

/-- An integer follows the euro pattern if it has at most three digits. -/
lemma isEuro_toString_int (i : Int) :
    Amount.isEuro (toString i).toList = true ↔ i.natAbs < 1000 := by
  have hlength : (Nat.toDigits 10 i.natAbs).length ≤ 3 ↔ i.natAbs < 1000 :=
    Nat.length_toDigits_le_iff (by decide) (by decide)
  rw [toList_toString_int, Amount.isEuro_positional _ Nat.toDigits_ne_nil
    fun c => isDigit_of_mem_toDigits_append_nil, hlength]
  exact and_iff_left (Or.inl rfl)

/-- An integer has the value of its digits, with its sign. -/
lemma signed_natAbs (i : Int) : signed (decide (i < 0)) i.natAbs = i := by
  rcases lt_or_ge i 0 with hneg | hnonneg
  · have habs : (i.natAbs : ℚ) = -i := by
      rw [← Int.cast_natCast, Int.ofNat_natAbs_of_nonpos hneg.le, Int.cast_neg]
    rw [decide_eq_true hneg, signed, if_pos rfl, habs, neg_neg]
  · have habs : (i.natAbs : ℚ) = i := by
      rw [← Int.cast_natCast, Int.natAbs_of_nonneg hnonneg]
    rw [decide_eq_false (not_lt.mpr hnonneg), signed, if_neg Bool.false_ne_true, habs]

namespace ExportCell

variable {i : Int64}

/-- An integer of at most three digits is exported with two decimals. -/
lemma render_integer_of_lt (h : i.toInt.natAbs < 1000) :
    (ofValue (.integer i)).render = (Binary64.ofInt i.toInt).twoPlaces := by
  have hread := Amount.readEuro?_positional Nat.toDigits_ne_nil
    (fun c => isDigit_of_mem_toDigits_append_nil) (toList_toString_int i.toInt)
    ((isEuro_toString_int i.toInt).mpr h)
  rw [List.append_nil, Decimal.digitsValue_toDigits] at hread
  exact render_of_readEuro? rfl hread

/-- An integer of more digits is exported as it is shown. -/
lemma render_integer_of_ge (h : 1000 ≤ i.toInt.natAbs) :
    (ofValue (.integer i)).render = toString i.toInt := by
  refine render_of_isEuro_eq_false rfl ?_
  show Amount.isEuro (Text.trimEnds Text.isBlank (toString i.toInt).toList) = false
  rw [toList_toString_int, Amount.trimEnds_positional _ fun c => isDigit_of_mem_toDigits_append_nil,
    ← toList_toString_int, Bool.eq_false_iff, Ne, isEuro_toString_int]
  exact not_lt.mpr h

/-- What an integer is exported as: a numeral of its value, with two decimals if it has no more than
three digits, and as it is shown otherwise. -/
structure ExportsInteger (i : Int64) : Prop where
  denotes : ∃ d, Decimal.ofChars? (ofValue (.integer i)).render.toList = some d ∧
    d.value = i.toInt
  decimals : HasTwoDecimals (ofValue (.integer i)).render ↔ i.toInt.natAbs < 1000
  short : i.toInt.natAbs < 1000 →
    (ofValue (.integer i)).render = (Binary64.ofInt i.toInt).twoPlaces
  long : 1000 ≤ i.toInt.natAbs → (ofValue (.integer i)).render = toString i.toInt

/-- **Integers keep their value.** -/
lemma exportsInteger (i : Int64) : ExportsInteger i := by
  refine ⟨?_, ⟨fun hdecimals => ?_, fun h => ?_⟩, render_integer_of_lt, render_integer_of_ge⟩
  · rcases lt_or_ge i.toInt.natAbs 1000 with h | h
    · refine ⟨⟨decide (i.toInt < 0), i.toInt.natAbs * 100, -2⟩, ?_, ?_⟩
      · rw [render_integer_of_lt h, Binary64.ofInt,
          Binary64.ofChars?_twoPlaces_whole _ (h.trans (by decide))]
      · rw [Decimal.value_hundredths, signed_natAbs]
    · refine ⟨⟨decide (i.toInt < 0), i.toInt.natAbs, 0⟩, ?_, ?_⟩
      · rw [render_integer_of_ge h, toList_toString_int, Decimal.ofChars?_positional _
          Nat.toDigits_ne_nil fun c => isDigit_of_mem_toDigits_append_nil, List.append_nil,
          Decimal.digitsValue_toDigits]
        rfl
      · rw [Decimal.value_whole, signed_natAbs]
  · by_contra hlong
    rw [render_integer_of_ge (not_lt.mp hlong)] at hdecimals
    have hpoint := hdecimals.point_mem
    rw [toList_toString_int, Amount.point_mem_positional _
      fun c => isDigit_of_mem_toDigits_append_nil] at hpoint
    exact hpoint rfl
  · rw [render_integer_of_lt h, Binary64.ofInt, Binary64.ofRatio_whole _ (h.trans (by decide))]
    exact hasTwoDecimals_twoPlaces _ _

/-! ### Reals -/

/-- The text of a number reads as one to three digits and a group of three. -/
def LooksGrouped (text : String) : Prop := Amount.isEuro text.toList = true ∧ '.' ∈ text.toList

section

variable {text : String} {negative : Bool} {whole fraction : List Char} (hne : whole ≠ [])
  (hdigits : ∀ c ∈ whole ++ fraction, c.isDigit = true)
  (htext : text.toList =
    (Binary64.signText negative).toList ++ (whole ++ Decimal.behindPoint fraction))

include hne hdigits htext

/-- **A positional text looks grouped** if it has at most three digits in front of the point and
three behind it. -/
lemma looksGrouped_positional : LooksGrouped text ↔ whole.length ≤ 3 ∧ fraction.length = 3 := by
  rw [LooksGrouped, htext, Amount.point_mem_positional negative hdigits,
    Amount.isEuro_positional negative hne hdigits]
  constructor
  · rintro ⟨⟨hwhole, hshape⟩, hfraction⟩
    exact ⟨hwhole, hshape.resolve_left hfraction⟩
  · rintro ⟨hwhole, hfraction⟩
    exact ⟨⟨hwhole, Or.inr hfraction⟩, List.length_pos_iff.mp (by omega)⟩

/-- A text of the euro pattern that does not look grouped has no decimals. -/
lemma fraction_eq_nil (h : Amount.isEuro text.toList = true) (hgrouped : ¬LooksGrouped text) :
    fraction = [] := by
  rw [htext, Amount.isEuro_positional negative hne hdigits] at h
  rw [looksGrouped_positional hne hdigits htext] at hgrouped
  exact h.2.resolve_right fun hfraction => hgrouped ⟨h.1, hfraction⟩

end

section

variable {negative : Bool} {m : Binary64.Magnitude} {whole fraction : List Char} (hne : whole ≠ [])
  (hdigits : ∀ c ∈ whole ++ fraction, c.isDigit = true)
  (htext : (Binary64.toText (.finite negative m)).toList =
    (Binary64.signText negative).toList ++ (whole ++ Decimal.behindPoint fraction))

include hdigits htext

/-- A real whose text does not follow the euro pattern is exported as it is shown. -/
lemma render_real_of_isEuro_eq_false
    (h : Amount.isEuro (Binary64.toText (.finite negative m)).toList = false) :
    (ofValue (.real (.finite negative m))).render = Binary64.toText (.finite negative m) := by
  refine render_of_isEuro_eq_false rfl ?_
  show Amount.isEuro (Text.trimEnds Text.isBlank (Binary64.toText (.finite negative m)).toList) =
    false
  rw [htext, Amount.trimEnds_positional negative hdigits, ← htext, h]

include hne

/-- A real whose text follows the euro pattern is exported as the whole number of its digits. -/
lemma render_real_of_isEuro
    (h : Amount.isEuro (Binary64.toText (.finite negative m)).toList = true) :
    (ofValue (.real (.finite negative m))).render =
        (Binary64.ofRatio negative (Decimal.digitsValue (whole ++ fraction)) 1).twoPlaces ∧
      Decimal.ofChars? (ofValue (.real (.finite negative m))).render.toList =
        some ⟨negative, Decimal.digitsValue (whole ++ fraction) * 100, -2⟩ := by
  have hrender := render_of_readEuro? (v := .real (.finite negative m)) rfl
    (Amount.readEuro?_positional hne hdigits htext h)
  refine ⟨hrender, ?_⟩
  rw [hrender, Binary64.ofChars?_twoPlaces_whole negative
    (Amount.digitsValue_lt_of_isEuro hne hdigits htext h)]

variable (hback : Decimal.toBinary64
  ⟨negative, Decimal.digitsValue (whole ++ fraction), -(fraction.length : Int)⟩ =
    .finite negative m)

include hback

/-- A real whose text follows the euro pattern and does not look grouped is a whole number. -/
lemma ofRatio_digitsValue
    (h : Amount.isEuro (Binary64.toText (.finite negative m)).toList = true)
    (hgrouped : ¬LooksGrouped (Binary64.toText (.finite negative m))) :
    Binary64.ofRatio negative (Decimal.digitsValue (whole ++ fraction)) 1 =
      .finite negative m := by
  rw [fraction_eq_nil hne hdigits htext h hgrouped] at hback ⊢
  rw [← Decimal.toBinary64_whole]
  exact hback

/-- A real whose text looks grouped is smaller than the whole number of its digits. -/
lemma lt_of_looksGrouped (h : LooksGrouped (Binary64.toText (.finite negative m))) :
    m.quanta < Decimal.digitsValue (whole ++ fraction) * Binary64.quantaPerUnit ∧
      m.hundredths .toEven < Decimal.digitsValue (whole ++ fraction) * 100 := by
  have hbound := Amount.digitsValue_lt_of_isEuro hne hdigits htext h.1
  rw [((looksGrouped_positional hne hdigits htext).mp h).2] at hback
  exact Binary64.lt_of_thousandths hbound (Binary64.quanta_ne_zero_of_point h.2) hback

end

/-- What a finite real is exported as.  The exported numeral is read as the real unless the text of
the real looks grouped, and then has the thousandfold value.  It has the two decimals of the real if
the text follows the euro pattern and does not look grouped, or is the text with two decimals; a
text that does not follow the pattern is exported as it is. -/
structure ExportsReal (x : Binary64) : Prop where
  kept : (∃ d, Decimal.ofChars? (ofValue (.real x)).render.toList = some d ∧ d.toBinary64 = x) ↔
    ¬LooksGrouped x.toText
  decimals : (ofValue (.real x)).render = x.twoPlaces ↔
    ¬LooksGrouped x.toText ∧ (Amount.isEuro x.toText.toList = true ∨ x.toText = x.twoPlaces)
  long : Amount.isEuro x.toText.toList = false → (ofValue (.real x)).render = x.toText
  thousandfold : LooksGrouped x.toText → ∃ d e, Decimal.ofChars? x.toText.toList = some d ∧
    Decimal.ofChars? (ofValue (.real x)).render.toList = some e ∧ e.value = 1000 * d.value

/-- **Reals keep their value unless their text looks grouped.** -/
lemma exportsReal_finite (negative : Bool) (m : Binary64.Magnitude) :
    ExportsReal (.finite negative m) := by
  obtain ⟨s, hreads, htext⟩ := Binary64.exists_toText negative m
  have hne := s.whole_ne_nil
  have hdigits : ∀ c ∈ s.positional.1 ++ s.positional.2, c.isDigit = true := fun c =>
    ScaledDigits.isDigit_of_mem_positional
  have hnumeral := Decimal.ofChars?_positional negative hne hdigits
  rw [← htext] at hnumeral
  have hback := Binary64.toBinary64_of_isReadFrom negative hreads
  rw [← s.digitsValue_positional, ← s.length_fraction] at hback
  have heuro := render_real_of_isEuro hne hdigits htext
  have hlong := render_real_of_isEuro_eq_false hdigits htext
  have hwhole := ofRatio_digitsValue hne hdigits htext hback
  have hless := lt_of_looksGrouped hne hdigits htext hback
  refine ⟨⟨fun ⟨d, hd, hx⟩ hgrouped => ?_, fun hgrouped => ?_⟩,
    ⟨fun htwo => ⟨fun hgrouped => ?_, ?_⟩, fun ⟨hgrouped, hshape⟩ => ?_⟩, hlong,
    fun hgrouped => ?_⟩
  · -- the thousandfold value is too large
    rw [(heuro hgrouped.1).2] at hd
    rw [← Option.some.inj hd, Decimal.toBinary64_hundredths, Binary64.ofRatio_whole negative
      (Amount.digitsValue_lt_of_isEuro hne hdigits htext hgrouped.1)] at hx
    rw [Binary64.finite.injEq] at hx
    have hquanta := congrArg Binary64.Magnitude.quanta hx.2
    exact absurd (hless hgrouped).1 (not_lt.mpr hquanta.le)
  · by_cases h : Amount.isEuro (Binary64.toText (.finite negative m)).toList = true
    · refine ⟨_, (heuro h).2, ?_⟩
      rw [Decimal.toBinary64_hundredths, hwhole h hgrouped]
    · rw [hlong (Bool.eq_false_iff.mpr h)]
      exact ⟨_, hnumeral, hback⟩
  · -- and so are its hundredths
    have hread := (heuro hgrouped.1).2
    rw [htwo, Binary64.twoPlaces, String.toList_append, Binary64.ofChars?_twoPlaces] at hread
    rw [Option.some.injEq, Decimal.mk.injEq] at hread
    exact absurd (hless hgrouped).2 (not_lt.mpr hread.2.1.ge)
  · by_cases h : Amount.isEuro (Binary64.toText (.finite negative m)).toList = true
    · exact Or.inl h
    · rw [hlong (Bool.eq_false_iff.mpr h)] at htwo
      exact Or.inr htwo
  · by_cases h : Amount.isEuro (Binary64.toText (.finite negative m)).toList = true
    · rw [(heuro h).1, hwhole h hgrouped]
    · rw [hlong (Bool.eq_false_iff.mpr h)]
      exact hshape.resolve_left h
  · refine ⟨_, _, hnumeral, (heuro hgrouped.1).2, ?_⟩
    rw [Decimal.value_hundredths, ((looksGrouped_positional hne hdigits htext).mp hgrouped).2]
    exact (Decimal.value_thousandths negative _).symm

/-- **What integers and finite reals are exported as.**  Integers keep their value; reals keep it
unless their text has at most three digits in front of the point and three behind it. -/
theorem render_number (i : Int64) (x : Binary64) (hx : x.isFinite = true) :
    ExportsInteger i ∧ ExportsReal x := by
  obtain ⟨negative, m, rfl⟩ := Binary64.exists_of_isFinite hx
  exact ⟨exportsInteger i, exportsReal_finite negative m⟩

/-- The integer 12 has two decimals, and the real one and a half is exported as it is shown. -/
theorem render_of_oneAndAHalf :
    (ofValue (.integer 12)).render = "12.00" ∧ ExportsInteger 12 ∧
      (ofValue (.real (Decimal.toBinary64 ⟨false, 15, -1⟩))).render = "1.5" ∧
      ∃ d, Decimal.ofChars? "1.5".toList = some d ∧
        d.toBinary64 = Decimal.toBinary64 ⟨false, 15, -1⟩ := by
  have htext : (Decimal.toBinary64 ⟨false, 15, -1⟩).toText = "1.5" := by decide +kernel
  obtain ⟨hinteger, hreal⟩ := render_number 12 (Decimal.toBinary64 ⟨false, 15, -1⟩)
    (by decide +kernel)
  have hrender := hreal.long (by rw [htext]; decide +kernel)
  have hkept := hreal.kept.mpr fun hgrouped => by
    rw [LooksGrouped, htext] at hgrouped
    revert hgrouped
    decide +kernel
  rw [hrender, htext] at hkept
  exact ⟨by decide +kernel, hinteger, hrender.trans htext, hkept⟩

/-- The real 1.234 is exported as the number 1234, and the integer 1234 without decimals. -/
theorem render_of_grouped_thousandths :
    (ofValue (.real (Decimal.toBinary64 ⟨false, 1234, -3⟩))).render = "1234.00" ∧
      (Decimal.toBinary64 ⟨false, 1234, -3⟩).twoPlaces = "1.23" ∧
      (ofValue (.integer 1234)).render = "1234" := by
  decide +kernel

end ExportCell

end TableExplorer
