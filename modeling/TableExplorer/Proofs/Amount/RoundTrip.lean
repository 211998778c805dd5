import Mathlib
import TableExplorer.Amount.Style
import TableExplorer.Proofs.Amount.Grouped
import TableExplorer.Proofs.Binary64.Nearest

/-!
Writing an amount and reading it again.  The text of a finite number is a grouped text of its
hundredths; so it follows the euro pattern, and both readings of it give the number nearest to those
hundredths.  A number that is nearest to its own hundredths is read back.

* `exists_writeLocale`: **an amount is written as a grouped text**.
* `isFinite_hundredths`: the number nearest to the hundredths of a finite number is finite.
* `isRoundTrip_writeLocale`: **writing and reading are inverse at two decimals**, and lists of
  written amounts are recognised as amounts of the euro style.
-/

namespace TableExplorer

namespace Binary64

variable {n : Nat} {negative : Bool} {m : Magnitude}

/-! ### The largest number -/

/-- The largest number of the format, in units. -/
def largestUnits : Nat := (2 ^ 53 - 1) * 2 ^ 971

/-- No number of the format is larger. -/
lemma quanta_le_largest (m : Magnitude) : m.quanta ≤ quantaPerUnit * largestUnits := by
  have hspacing : spacing (quantaPerUnit * largestUnits) ∣ quantaPerUnit * largestUnits := by
    decide +kernel
  have hnext : quantaPerUnit * largestUnits + spacing (quantaPerUnit * largestUnits) =
      overflow := by
    decide +kernel
  obtain ⟨hlt, hdvd⟩ := representable_iff.mp m.representable
  by_contra hgt
  have hstep := add_spacing_le hspacing hdvd (not_le.mp hgt)
  rw [hnext] at hstep
  exact absurd hlt (not_lt.mpr hstep)

/-- **The number nearest to a quotient is finite** if the quotient is at most the largest number. -/
lemma isFinite_ofRatio {num den : Nat} (negative : Bool) (hden : 0 < den)
    (h : num ≤ largestUnits * den) : (ofRatio negative num den).isFinite = true := by
  have hspacing : spacing (quantaPerUnit * largestUnits) ∣ quantaPerUnit * largestUnits := by
    decide +kernel
  have hbelow : quantaPerUnit * largestUnits < overflow := by decide +kernel
  have hround : roundToQuanta (num * quantaPerUnit) den ≤ quantaPerUnit * largestUnits := by
    refine roundToQuanta_le hden hspacing ?_
    calc num * quantaPerUnit ≤ largestUnits * den * quantaPerUnit := Nat.mul_le_mul_right _ h
      _ = den * (quantaPerUnit * largestUnits) := by
          rw [Nat.mul_comm largestUnits den, Nat.mul_assoc, Nat.mul_comm largestUnits]
  have hrepresentable : Representable (roundToQuanta (num * quantaPerUnit) den) :=
    representable_iff.mpr ⟨hround.trans_lt hbelow, spacing_dvd_roundToQuanta hden _⟩
  rw [ofRatio, ofQuanta, dif_pos hrepresentable]
  rfl

/-- **The number nearest to the hundredths of a finite number is finite.** -/
lemma isFinite_hundredths (negative : Bool) (m : Magnitude) (tie : Tie) :
    (Decimal.toBinary64 ⟨negative, m.hundredths tie, -2⟩).isFinite = true := by
  have hhundredths : m.hundredths tie ≤ largestUnits * 100 := by
    refine roundQuotient_le quantaPerUnit_pos ?_
    rw [← Nat.mul_assoc]
    exact Nat.mul_le_mul_right 100 (quanta_le_largest m)
  have hnumerator : ∀ n, Decimal.numerator ⟨negative, n, -2⟩ = n := Nat.mul_one
  have hdenominator : ∀ n, Decimal.denominator ⟨negative, n, -2⟩ = 100 := fun _ => rfl
  rw [Decimal.toBinary64_eq_ofRatio, hnumerator, hdenominator]
  exact isFinite_ofRatio negative (by decide) hhundredths

/-! ### Signs -/

/-- A finite number is negative if it has a minus and is not zero. -/
lemma compare?_zero_eq_lt_iff :
    compare? (.finite negative m) zero = some .lt ↔ negative = true ∧ m.quanta ≠ 0 := by
  have hscaled : compare? (.finite negative m) zero =
      some (compare (if negative then -(m.quanta : Int) else m.quanta) 0) := rfl
  rw [hscaled, Option.some_inj, Int.compare_eq_lt]
  cases negative
  · simp
  · simp [Nat.pos_iff_ne_zero]

/-- Zero has no hundredths. -/
lemma quanta_ne_zero_of_hundredths {tie : Tie} (h : m.hundredths tie ≠ 0) : m.quanta ≠ 0 := by
  intro hzero
  refine h (Nat.le_zero.mp ?_)
  rw [Magnitude.hundredths, hzero, Nat.zero_mul]
  exact roundQuotient_le quantaPerUnit_pos (Nat.zero_le _)

end Binary64

namespace Decimal

/-- Digits denote zero if they are all zero. -/
lemma digitsValue_eq_zero_iff {cs : List Char} (h : ∀ c ∈ cs, c.isDigit = true) :
    digitsValue cs = 0 ↔ ∀ c ∈ cs, c = '0' := by
  induction cs with
  | nil => simp [digitsValue]
  | cons c cs ih =>
      have hvalue : digitsValue (c :: cs) = 10 ^ cs.length * digitValue c + digitsValue cs := by
        have happend := digitsValue_append [c] cs
        rwa [show digitsValue [c] = digitValue c from Nat.zero_add _] at happend
      have hc : digitValue c = 0 ↔ c = '0' := by
        obtain ⟨hlow, -⟩ := Char.isDigit_iff_toNat.mp (h c List.mem_cons_self)
        rw [← Char.toNat_inj, digitValue]
        omega
      rw [hvalue, Nat.add_eq_zero_iff, Nat.mul_eq_zero, hc,
        ih fun d hd => h d (List.mem_cons_of_mem _ hd), List.forall_mem_cons]
      simp

end Decimal

namespace Amount

open Binary64 (IsNearest)

/-! ### Writing -/

/-- **An amount is written as a grouped text** of its hundredths. -/
lemma exists_writeLocale (negative : Bool) (m : Binary64.Magnitude) :
    ∃ t : GroupedText, (writeLocale (.finite negative m)).toList = t.chars ∧
      t.digits = m.twoPlaces.toList ∧
      t.negative = (negative && decide (m.hundredths .toEven ≠ 0)) := by
  obtain ⟨lead, groups, htext, hdigits, hne, hlead, hgroups⟩ :=
    exists_groupThousands _ (Binary64.whole_ne_nil (m.hundredths .toEven))
  refine ⟨⟨negative && decide (m.hundredths .toEven ≠ 0), lead, groups,
    (Binary64.hundredthsDigits (m.hundredths .toEven)).2, hne, hlead, hgroups,
    Binary64.length_decimals _, fun c hc => ?_⟩, ?_, ?_, rfl⟩
  · rw [← hdigits] at hc
    exact Binary64.isDigit_of_mem_hundredthsDigits hc
  · rw [writeLocale, GroupedText.chars, GroupedText.tail]
    dsimp only
    rw [String.toList_append, String.toList_ofList, htext, List.append_assoc]
  · rw [Binary64.toList_twoPlaces, GroupedText.digits, GroupedText.whole]
    dsimp only
    rw [← hdigits]

/-- A grouped text begins with a minus if it is negative. -/
lemma GroupedText.head?_chars_eq_minus_iff (t : GroupedText) :
    t.chars.head? = some '-' ↔ t.negative = true := by
  obtain ⟨c, cs, hlead⟩ := List.exists_cons_of_ne_nil t.lead_ne_nil
  have hc : c ≠ '-' := by
    rintro rfl
    have hdigit := isDigit_of_mem_lead (hlead ▸ List.mem_cons_self)
    exact absurd hdigit (by decide)
  rw [chars, hlead]
  cases t.negative with
  | true => exact iff_of_true rfl rfl
  | false => exact iff_of_false (fun h => hc (Option.some.inj h)) Bool.false_ne_true

/-! ### Reading what is written -/

/-- The text with two decimals and with the minus that the text of the amount has. -/
def signedTwoPlaces (x : Binary64) : List Char :=
  if (writeLocale x).toList.head? = some '-' then '-' :: x.abs.twoPlaces.toList
  else x.abs.twoPlaces.toList

/-- How the text of an amount looks, and what it is read as. -/
structure IsRoundTrip (x : Binary64) : Prop where
  grouped : ∃ t : GroupedText, (writeLocale x).toList = t.chars
  isEuro : isEuro (writeLocale x).toList = true
  digits : commaToPoint ((writeLocale x).toList.filter (· != '-')) = x.abs.twoPlaces.toList
  minus : (writeLocale x).toList.head? = some '-' ↔
    x.compare? .zero = some .lt ∧ ∃ c ∈ x.abs.twoPlaces.toList, c.isDigit = true ∧ c ≠ '0'
  reads : ∃ d y, Decimal.ofChars? (signedTwoPlaces x) = some d ∧ IsNearest d.value y ∧
    readFinite? (signedTwoPlaces x) = some y ∧ readLocale? (writeLocale x) = some y ∧
    readEuro? (writeLocale x) = some y
  identity : ∀ d, Decimal.ofChars? x.twoPlaces.toList = some d → IsNearest d.value x →
    ∃ y, readLocale? (writeLocale x) = some y ∧ y.compare? x = some .eq

section

variable {negative : Bool} {m : Binary64.Magnitude}

/-- The two decimals have a digit other than zero if the hundredths are not zero. -/
lemma exists_digit_ne_zero_iff (m : Binary64.Magnitude) :
    (∃ c ∈ m.twoPlaces.toList, c.isDigit = true ∧ c ≠ '0') ↔ m.hundredths .toEven ≠ 0 := by
  have hdigits := fun c (hc : c ∈ (Binary64.hundredthsDigits (m.hundredths .toEven)).1 ++
    (Binary64.hundredthsDigits (m.hundredths .toEven)).2) =>
      Binary64.isDigit_of_mem_hundredthsDigits hc
  have hzero := Decimal.digitsValue_eq_zero_iff hdigits
  rw [Binary64.digitsValue_hundredthsDigits] at hzero
  rw [Ne, hzero, Binary64.toList_twoPlaces]
  constructor
  · rintro ⟨c, hc, hdigit, hne⟩ hall
    rw [List.mem_append, List.mem_cons] at hc
    rcases hc with hc | rfl | hc
    · exact hne (hall c (List.mem_append_left _ hc))
    · exact absurd hdigit (by decide)
    · exact hne (hall c (List.mem_append_right _ hc))
  · intro hall
    obtain ⟨c, hc, hne⟩ : ∃ c, c ∈ _ ∧ c ≠ '0' := by
      by_contra hnone
      exact hall fun c hc => by_contra fun hne => hnone ⟨c, hc, hne⟩
    refine ⟨c, ?_, hdigits c hc, hne⟩
    rw [List.mem_append, List.mem_cons]
    exact (List.mem_append.mp hc).imp_right Or.inr

/-- The numbers of hundredths with one sign and with the other are the same if there are none. -/
lemma value_hundredths_eq (negative : Bool) (n : Nat) :
    Decimal.value ⟨negative && decide (n ≠ 0), n, -2⟩ = Decimal.value ⟨negative, n, -2⟩ := by
  rcases Nat.eq_zero_or_pos n with rfl | hpos
  · cases negative
    · rfl
    · rw [Decimal.value, Decimal.value]
      simp [signed]
  · rw [decide_eq_true hpos.ne', Bool.and_true]

/-- The two decimals of a number without its sign are those of its magnitude. -/
lemma twoPlaces_abs (negative : Bool) (m : Binary64.Magnitude) :
    (Binary64.abs (.finite negative m)).twoPlaces = m.twoPlaces := String.empty_append

/-- The text with two decimals has the minus of the grouped text that the amount is written as. -/
lemma signedTwoPlaces_eq {t : GroupedText}
    (htext : (writeLocale (.finite negative m)).toList = t.chars) :
    signedTwoPlaces (.finite negative m) =
      (Binary64.signText t.negative).toList ++ m.twoPlaces.toList := by
  rw [signedTwoPlaces, htext, twoPlaces_abs]
  by_cases hminus : t.negative = true
  · rw [if_pos (t.head?_chars_eq_minus_iff.mpr hminus), hminus, Decimal.toList_signText_true,
      List.singleton_append]
  · rw [if_neg (mt t.head?_chars_eq_minus_iff.mp hminus), Bool.eq_false_iff.mpr hminus,
      Decimal.toList_signText_false, List.nil_append]

/-- A numeral is read as the number that it denotes. -/
lemma readFinite?_of_isFinite {cs : List Char} {d : Decimal} (h : Decimal.ofChars? cs = some d)
    (hfinite : d.toBinary64.isFinite = true) : readFinite? cs = some d.toBinary64 := by
  rw [readFinite?, h]
  simp only [Option.bind_eq_bind, Option.bind_some, hfinite, if_true]

/-- Writing and reading are inverse at two decimals. -/
lemma isRoundTrip_finite (negative : Bool) (m : Binary64.Magnitude) :
    IsRoundTrip (.finite negative m) := by
  obtain ⟨t, htext, hdigits, hsign⟩ := exists_writeLocale negative m
  have hsigned := signedTwoPlaces_eq htext
  have hnumeral : Decimal.ofChars? (signedTwoPlaces (.finite negative m)) =
      some ⟨t.negative, m.hundredths .toEven, -2⟩ := by
    rw [hsigned, Binary64.ofChars?_twoPlaces]
  have hfinite := Binary64.isFinite_hundredths t.negative m .toEven
  have hnearest := Decimal.isNearest_toBinary64 hfinite
  have hread : readFinite? (signedTwoPlaces (.finite negative m)) =
      some (Decimal.toBinary64 ⟨t.negative, m.hundredths .toEven, -2⟩) :=
    readFinite?_of_isFinite hnumeral hfinite
  have hread' : readFinite? ((Binary64.signText t.negative).toList ++ t.digits) =
      some (Decimal.toBinary64 ⟨t.negative, m.hundredths .toEven, -2⟩) := by
    rw [hdigits, ← hsigned, hread]
  have hlocale : readLocale? (writeLocale (.finite negative m)) =
      some (Decimal.toBinary64 ⟨t.negative, m.hundredths .toEven, -2⟩) := by
    rw [readLocale?, htext, GroupedText.readLocaleChars?_chars hread']
  refine ⟨⟨t, htext⟩, ?_, ?_, ?_, ⟨_, _, hnumeral, hnearest, hread, hlocale, ?_⟩, ?_⟩
  · rw [htext, t.isEuro_chars]
  · rw [htext, t.filter_chars, t.commaToPoint_lead_tail, hdigits, twoPlaces_abs]
  · rw [htext, t.head?_chars_eq_minus_iff, hsign, twoPlaces_abs, exists_digit_ne_zero_iff,
      Binary64.compare?_zero_eq_lt_iff, Bool.and_eq_true, decide_eq_true_iff]
    constructor
    · rintro ⟨hnegative, hne⟩
      exact ⟨⟨hnegative, Binary64.quanta_ne_zero_of_hundredths hne⟩, hne⟩
    · rintro ⟨⟨hnegative, -⟩, hne⟩
      exact ⟨hnegative, hne⟩
  · rw [readEuro?, htext, GroupedText.readEuroChars?_chars, hread']
  · intro d hd hidentity
    have htwo : (Binary64.twoPlaces (.finite negative m)).toList =
        (Binary64.signText negative).toList ++ m.twoPlaces.toList := String.toList_append
    rw [htwo, Binary64.ofChars?_twoPlaces, Option.some_inj] at hd
    rw [← hd, ← value_hundredths_eq, ← hsign] at hidentity
    refine ⟨_, hlocale, ?_⟩
    rw [Binary64.compare?_eq hfinite rfl, hnearest.value_unique hidentity]
    exact congrArg some (compare_eq_iff_eq.mpr rfl)

end

/-- **Writing and reading are inverse at two decimals**: the text of every finite number has the
digits of the number with two decimals, grouped, and is read as the number nearest to them; and
every list of such texts is recognised as one of amounts of the euro style. -/
theorem isRoundTrip_writeLocale :
    (∀ x : Binary64, x.isFinite = true → IsRoundTrip x) ∧
      ∀ xs : List Binary64, xs ≠ [] → (∀ x ∈ xs, x.isFinite = true) →
        AmountStyle.classify (xs.map writeLocale) = .euro := by
  constructor
  · intro x hx
    obtain ⟨negative, m, rfl⟩ := Binary64.exists_of_isFinite hx
    exact isRoundTrip_finite negative m
  · intro xs hne hfinite
    have hall : ((xs.map writeLocale).map fun s => Text.trimEnds Text.isBlank s.toList).countP
        isEuro = xs.length := by
      rw [List.map_map, List.countP_map]
      refine List.countP_eq_length.mpr fun x hx => ?_
      obtain ⟨negative, m, rfl⟩ := Binary64.exists_of_isFinite (hfinite x hx)
      obtain ⟨t, htext, -⟩ := exists_writeLocale negative m
      show isEuro (Text.trimEnds Text.isBlank (writeLocale (.finite negative m)).toList) = true
      rw [htext, t.trimEnds_chars, t.isEuro_chars]
    have hplain : ((xs.map writeLocale).map fun s => Text.trimEnds Text.isBlank s.toList).countP
        isPlainDot ≤ xs.length := by
      refine List.countP_le_length.trans_eq ?_
      rw [List.length_map, List.length_map]
    rw [AmountStyle.classify, hall, if_neg fun h => hne (List.length_eq_zero_iff.mp h.1),
      if_pos hplain]

/-- Amounts of eight digits: they are grouped twice, and read back. -/
theorem isRoundTrip_of_negativeAmount :
    writeLocale (Decimal.toBinary64 ⟨true, 12345675, -1⟩) = "-1.234.567,50" ∧
      IsRoundTrip (Decimal.toBinary64 ⟨true, 12345675, -1⟩) ∧
      AmountStyle.classify ["-1.234.567,50"] = .euro := by
  have htext : writeLocale (Decimal.toBinary64 ⟨true, 12345675, -1⟩) = "-1.234.567,50" := by
    decide +kernel
  have hfinite : (Decimal.toBinary64 ⟨true, 12345675, -1⟩).isFinite = true := by decide +kernel
  have hstyle := isRoundTrip_writeLocale.2 [Decimal.toBinary64 ⟨true, 12345675, -1⟩]
    (List.cons_ne_nil _ _) fun x hx => (List.mem_singleton.mp hx).symm ▸ hfinite
  rw [List.map_singleton, htext] at hstyle
  exact ⟨htext, isRoundTrip_writeLocale.1 _ hfinite, hstyle⟩

end Amount

end TableExplorer
