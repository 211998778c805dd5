import Mathlib
import TableExplorer.Proofs.Amount.Grouped

/-!
The parts of an amount.  A text of either pattern is a minus, if there is one, digits in front of a
separator and digits behind it; grouping is between the former.  Without grouping, and with a point
for the separator, the text is a plain numeral.

* `Amount.Parts`: the parts; `Parts.plain`: their numeral; `Parts.Of`: the parts of a text.
* `exists_parts_of_isEuro`, `exists_parts_of_isPlainDot`: **the texts of each pattern have parts**,
  and the numeral is what is read.
* `Parts.Of.ofChars?_plain`: **a numeral of ASCII digits is read as what the text denotes**;
  `Decimal.isDigit_of_ofChars?`: no other digits are read.
-/

namespace TableExplorer.Amount

open Text (isDecimalDigit)

/-! ### What a text denotes -/

/-- What stands behind a separator; nothing if there is no separator. -/
def behind (separator : Char) (cs : List Char) : List Char :=
  (cs.dropWhile (· != separator)).drop 1

/-- The number that a text denotes: that of its ASCII digits in a row, the last of them, as many as
stand behind the separator, being decimals. -/
def denoted (separator : Char) (cs : List Char) : Decimal :=
  ⟨cs.head? == some '-', Decimal.digitsValue (cs.filter Char.isDigit),
    -(behind separator cs).length⟩

/-- A minus or none, digits in front of a separator, and digits behind it. -/
structure Parts where
  negative : Bool
  whole : List Char
  fraction : List Char
  whole_ne_nil : whole ≠ []
  isDigit : ∀ c ∈ whole ++ fraction, isDecimalDigit c = true

namespace Parts

/-- The numeral of the parts. -/
def plain (p : Parts) : List Char :=
  (Binary64.signText p.negative).toList ++ (p.whole ++ Decimal.behindPoint p.fraction)

/-- The parts are those of a text, the decimals standing behind this separator. -/
structure Of (p : Parts) (separator : Char) (cs : List Char) : Prop where
  minus : cs.head? = some '-' ↔ p.negative = true
  digits : cs.filter isDecimalDigit = p.whole ++ p.fraction
  decimals : behind separator cs = p.fraction
  isPlain : ∀ c ∈ cs, isDecimalDigit c = true ∨ c = '-' ∨ c = '.' ∨ c = ','

end Parts

/-! ### Cutting a text -/

/-- A text begins with its minus. -/
lemma exists_signText_dropMinus (cs : List Char) : ∃ negative : Bool,
    cs = (Binary64.signText negative).toList ++ dropMinus cs ∧
      (cs.head? = some '-' ↔ negative = true) := by
  by_cases hminus : cs.head? = some '-'
  · obtain ⟨rest, rfl⟩ := List.head?_eq_some_iff.mp hminus
    exact ⟨true, rfl, iff_of_true rfl rfl⟩
  · refine ⟨false, ?_, iff_of_false hminus Bool.false_ne_true⟩
    match cs, hminus with
    | [], _ => rfl
    | c :: rest, hminus =>
        unfold dropMinus
        split
        · rename_i heq
          rw [heq] at hminus
          exact absurd rfl hminus
        · rfl

/-- A text is a sign, the digits that come first, and the rest. -/
lemma exists_lead_tail (cs : List Char) : ∃ (negative : Bool) (lead tail : List Char),
    (dropMinus cs).span isDecimalDigit = (lead, tail) ∧
      cs = (Binary64.signText negative).toList ++ (lead ++ tail) ∧
      (cs.head? = some '-' ↔ negative = true) ∧ ∀ c ∈ lead, isDecimalDigit c = true := by
  obtain ⟨negative, hcs, hminus⟩ := exists_signText_dropMinus cs
  refine ⟨negative, _, _, List.span_eq_takeWhile_dropWhile _ _, ?_, hminus,
    fun _ => List.mem_takeWhile_imp⟩
  rw [List.takeWhile_append_dropWhile]
  exact hcs

/-- Nothing but a minus stands in a sign. -/
lemma eq_of_mem_signText {negative : Bool} {c : Char}
    (h : c ∈ (Binary64.signText negative).toList) : c = '-' := by
  cases negative
  · cases h
  · exact List.mem_singleton.mp h

/-- What stands in front of a separator is not behind it. -/
lemma behind_append {separator : Char} {as bs : List Char} (h : ∀ c ∈ as, c ≠ separator) :
    behind separator (as ++ bs) = behind separator bs := by
  rw [behind, List.dropWhile_append_of_pos fun c hc => bne_iff_ne.mpr (h c hc)]
  rfl

/-- A fraction behind a separator; no separator if there is no fraction. -/
def withSeparator (separator : Char) : List Char → List Char
  | [] => []
  | d :: ds => separator :: d :: ds

lemma withSeparator_of_ne_nil (separator : Char) {fraction : List Char} (h : fraction ≠ []) :
    withSeparator separator fraction = separator :: fraction := by
  obtain ⟨d, ds, rfl⟩ := List.exists_cons_of_ne_nil h
  rfl

lemma withSeparator_point (fraction : List Char) :
    withSeparator '.' fraction = Decimal.behindPoint fraction := by
  cases fraction <;> rfl

lemma behind_withSeparator (separator : Char) (fraction : List Char) :
    behind separator (withSeparator separator fraction) = fraction := by
  cases fraction with
  | nil => rfl
  | cons d ds => simp [behind, withSeparator]

lemma mem_withSeparator {separator c : Char} {fraction : List Char}
    (h : c ∈ withSeparator separator fraction) : c = separator ∨ c ∈ fraction := by
  cases fraction with
  | nil => cases h
  | cons d ds => exact List.mem_cons.mp h

/-- A digit is no minus and no separator. -/
lemma ne_of_isDecimalDigit {c : Char} (h : isDecimalDigit c = true) :
    c ≠ '-' ∧ c ≠ '.' ∧ c ≠ ',' := by
  refine ⟨?_, ?_, ?_⟩ <;> rintro rfl <;> exact absurd h (by decide +kernel)

/-- **The parts of a text** that begins with a sign, goes on with digits among which there may be
points, and ends with decimals behind a separator that does not stand among them. -/
lemma Parts.of_append (p : Parts) {separator : Char} {body : List Char}
    (hseparator : separator = '.' ∨ separator = ',')
    (hminus : ((Binary64.signText p.negative).toList ++
      (body ++ withSeparator separator p.fraction)).head? = some '-' ↔ p.negative = true)
    (hdigits : body.filter isDecimalDigit = p.whole)
    (hbody : ∀ c ∈ body, c ≠ separator ∧ (isDecimalDigit c = true ∨ c = '.')) :
    p.Of separator ((Binary64.signText p.negative).toList ++
      (body ++ withSeparator separator p.fraction)) := by
  have hfraction : ∀ c ∈ p.fraction, isDecimalDigit c = true := fun c hc =>
    p.isDigit c (List.mem_append_right _ hc)
  have hnone : ¬isDecimalDigit separator = true ∧ '-' ≠ separator := by
    rcases hseparator with rfl | rfl <;> decide +kernel
  refine ⟨hminus, ?_, ?_, fun c hc => ?_⟩
  · have hsign : (Binary64.signText p.negative).toList.filter isDecimalDigit = [] := by
      cases p.negative <;> decide +kernel
    have hending : (withSeparator separator p.fraction).filter isDecimalDigit =
        p.fraction := by
      cases hcs : p.fraction with
      | nil => rfl
      | cons d ds =>
          rw [hcs] at hfraction
          rw [withSeparator, List.filter_cons_of_neg hnone.1, List.filter_eq_self.mpr hfraction]
    rw [List.filter_append, hsign, List.nil_append, List.filter_append, hdigits, hending]
  · rw [behind_append fun c hc => eq_of_mem_signText hc ▸ hnone.2,
      behind_append fun c hc => (hbody c hc).1, behind_withSeparator]
  · rw [List.mem_append, List.mem_append] at hc
    rcases hc with hc | hc | hc
    · exact .inr (.inl (eq_of_mem_signText hc))
    · exact (hbody c hc).2.imp_right fun h => .inr (.inl h)
    · rcases mem_withSeparator hc with rfl | hc
      · exact .inr (.inr hseparator)
      · exact .inl (hfraction c hc)

/-! ### The plain pattern -/

/-- What stands behind the first digits of the plain pattern: decimals. -/
lemma exists_fraction_of_isPlainTail {tail : List Char}
    (h : (match tail with | [] => true | c :: decimals => c == '.' && isDigits decimals) = true) :
    ∃ fraction, tail = withSeparator '.' fraction ∧ ∀ c ∈ fraction, isDecimalDigit c = true := by
  match tail, h with
  | [], _ => exact ⟨[], rfl, fun c hc => nomatch hc⟩
  | c :: decimals, h =>
      rw [Bool.and_eq_true, beq_iff_eq, isDigits, Bool.and_eq_true, Bool.not_eq_true',
        List.isEmpty_eq_false_iff, List.all_eq_true] at h
      obtain ⟨rfl, hdecimals, hdigits⟩ := h
      exact ⟨decimals, (withSeparator_of_ne_nil '.' hdecimals).symm, hdigits⟩

/-- **A text of the plain pattern** is the numeral of its parts. -/
lemma exists_parts_of_isPlainDot {cs : List Char} (h : isPlainDot cs = true) :
    ∃ p : Parts, p.Of '.' cs ∧ cs = p.plain := by
  obtain ⟨negative, whole, tail, hspan, hcs, hminus, hwhole⟩ := exists_lead_tail cs
  rw [isPlainDot, hspan, Bool.and_eq_true, Bool.not_eq_true', List.isEmpty_eq_false_iff] at h
  obtain ⟨fraction, rfl, hfraction⟩ := exists_fraction_of_isPlainTail h.2
  let p : Parts := ⟨negative, whole, fraction, h.1, fun c hc =>
    (List.mem_append.mp hc).elim (hwhole c) (hfraction c)⟩
  refine ⟨p, ?_, ?_⟩
  · rw [hcs] at hminus ⊢
    exact p.of_append (.inl rfl) hminus (List.filter_eq_self.mpr hwhole) fun c hc =>
      ⟨(ne_of_isDecimalDigit (hwhole c hc)).2.1, .inl (hwhole c hc)⟩
  · rw [Parts.plain, ← withSeparator_point]
    exact hcs

/-! ### The euro pattern -/

/-- What stands behind the first digits of the euro pattern: groups of three digits behind points,
and decimals. -/
lemma exists_groups_of_isEuroTail {cs : List Char} (h : isEuroTail cs = true) :
    ∃ (groups : List (List Char)) (fraction : List Char),
      cs = groups.flatMap ('.' :: ·) ++ withSeparator ',' fraction ∧
        (∀ group ∈ groups, group.length = 3) ∧
        ∀ c ∈ groups.flatten ++ fraction, isDecimalDigit c = true := by
  induction cs using isEuroTail.induct with
  | case1 => exact ⟨[], [], rfl, by simp, by simp⟩
  | case2 decimals =>
      rw [isEuroTail, isDigits, Bool.and_eq_true, Bool.not_eq_true', List.isEmpty_eq_false_iff,
        List.all_eq_true] at h
      exact ⟨[], decimals, (withSeparator_of_ne_nil ',' h.1).symm, by simp, h.2⟩
  | case3 a b c rest ih =>
      rw [isEuroTail, Bool.and_eq_true, Bool.and_eq_true, Bool.and_eq_true] at h
      obtain ⟨⟨⟨ha, hb⟩, hc⟩, hrest⟩ := h
      obtain ⟨groups, fraction, rfl, hlength, hdigits⟩ := ih hrest
      refine ⟨[a, b, c] :: groups, fraction, rfl, List.forall_mem_cons.mpr ⟨rfl, hlength⟩,
        fun d hd => ?_⟩
      rw [List.flatten_cons, List.append_assoc, List.mem_append] at hd
      rcases hd with hd | hd
      · simp only [List.mem_cons, List.not_mem_nil, or_false] at hd
        rcases hd with rfl | rfl | rfl
        · exact ha
        · exact hb
        · exact hc
      · exact hdigits d hd
  | case4 cs hnil hcomma hpoint =>
      rw [isEuroTail] at h
      · cases h
      all_goals assumption

/-- The digits of groups are kept, and their points are not. -/
lemma filter_flatMap_groups {groups : List (List Char)}
    (h : ∀ c ∈ groups.flatten, isDecimalDigit c = true) :
    (groups.flatMap ('.' :: ·)).filter isDecimalDigit = groups.flatten := by
  have hpoint : ¬isDecimalDigit '.' = true := by decide +kernel
  induction groups with
  | nil => rfl
  | cons group groups ih =>
      rw [List.flatten_cons] at h
      rw [List.flatMap_cons, List.filter_append, List.filter_cons_of_neg hpoint,
        List.filter_eq_self.mpr fun c hc => h c (List.mem_append_left _ hc),
        ih fun c hc => h c (List.mem_append_right _ hc), List.flatten_cons]

/-- Without grouping, a text of the euro pattern is a plain numeral. -/
lemma commaToPoint_grouped (negative : Bool) {lead fraction : List Char}
    {groups : List (List Char)} (hlead : ∀ c ∈ lead, isDecimalDigit c = true)
    (hgroups : ∀ c ∈ groups.flatten, isDecimalDigit c = true)
    (hfraction : ∀ c ∈ fraction, isDecimalDigit c = true) :
    commaToPoint ((Binary64.signText negative).toList ++
        (lead ++ groups.flatMap ('.' :: ·) ++ withSeparator ',' fraction)) =
      (Binary64.signText negative).toList ++
        (lead ++ groups.flatten ++ Decimal.behindPoint fraction) := by
  have hsign : commaToPoint (Binary64.signText negative).toList =
      (Binary64.signText negative).toList := by
    cases negative <;> rfl
  have hending : commaToPoint (withSeparator ',' fraction) = Decimal.behindPoint fraction := by
    cases fraction with
    | nil => rfl
    | cons d ds => exact congrArg ('.' :: ·) (GroupedText.commaToPoint_of_digits hfraction)
  rw [GroupedText.commaToPoint_append, GroupedText.commaToPoint_append,
    GroupedText.commaToPoint_append, hsign, hending, GroupedText.commaToPoint_of_digits hlead,
    GroupedText.commaToPoint_groups fun group hgroup c hc =>
      hgroups c (List.mem_flatten.mpr ⟨group, hgroup, hc⟩)]

/-- **A text of the euro pattern** has parts, and without grouping it is their numeral. -/
lemma exists_parts_of_isEuro {cs : List Char} (h : isEuro cs = true) :
    ∃ p : Parts, p.Of ',' cs ∧ commaToPoint cs = p.plain := by
  obtain ⟨negative, lead, tail, hspan, hcs, hminus, hlead⟩ := exists_lead_tail cs
  rw [isEuro, hspan, Bool.and_eq_true, decide_eq_true_iff] at h
  obtain ⟨⟨hpos, -⟩, htail⟩ := h
  obtain ⟨groups, fraction, rfl, -, hdigits⟩ := exists_groups_of_isEuroTail htail
  rw [← List.append_assoc lead] at hcs
  have hgroups : ∀ c ∈ groups.flatten, isDecimalDigit c = true := fun c hc =>
    hdigits c (List.mem_append_left _ hc)
  have hfraction : ∀ c ∈ fraction, isDecimalDigit c = true := fun c hc =>
    hdigits c (List.mem_append_right _ hc)
  let p : Parts := ⟨negative, lead ++ groups.flatten, fraction,
    fun hnil => List.length_pos_iff.mp hpos (List.append_eq_nil_iff.mp hnil).1, fun c hc => by
      rw [List.append_assoc, List.mem_append] at hc
      exact hc.elim (hlead c) (hdigits c)⟩
  refine ⟨p, ?_, ?_⟩
  · rw [hcs] at hminus ⊢
    refine p.of_append (.inr rfl) hminus ?_ fun c hc => ?_
    · rw [List.filter_append, List.filter_eq_self.mpr hlead, filter_flatMap_groups hgroups]
    · rw [List.mem_append, List.mem_flatMap] at hc
      rcases hc with hc | ⟨group, hgroup, hc⟩
      · exact ⟨(ne_of_isDecimalDigit (hlead c hc)).2.2, .inl (hlead c hc)⟩
      · rcases List.mem_cons.mp hc with rfl | hc
        · exact ⟨by decide, .inr rfl⟩
        · have hc := hgroups c (List.mem_flatten.mpr ⟨group, hgroup, hc⟩)
          exact ⟨(ne_of_isDecimalDigit hc).2.2, .inl hc⟩
  · rw [hcs, commaToPoint_grouped negative hlead hgroups hfraction, Parts.plain]

/-! ### The numeral of the parts -/

/-- **A numeral of ASCII digits is read as what the text denotes.** -/
lemma Parts.Of.ofChars?_plain {p : Parts} {separator : Char} {cs : List Char}
    (h : p.Of separator cs)
    (hascii : ∀ c ∈ cs, isDecimalDigit c = true → c.isDigit = true) :
    Decimal.ofChars? p.plain = some (denoted separator cs) := by
  have hfilter : cs.filter Char.isDigit = p.whole ++ p.fraction := by
    rw [← h.digits]
    refine List.filter_congr fun c hc => ?_
    rw [Bool.eq_iff_iff]
    exact ⟨Text.isDecimalDigit_of_isDigit, hascii c hc⟩
  have hdigits : ∀ c ∈ p.whole ++ p.fraction, c.isDigit = true := by
    rw [← hfilter]
    exact fun c hc => (List.mem_filter.mp hc).2
  have hnegative : (cs.head? == some '-') = p.negative := by
    rw [Bool.eq_iff_iff, beq_iff_eq, h.minus]
  rw [plain, Decimal.ofChars?_positional p.negative p.whole_ne_nil hdigits, denoted, hnegative,
    hfilter, h.decimals]

end TableExplorer.Amount

namespace TableExplorer.Decimal

open Text (isDecimalDigit)

variable {cs : List Char} {c : Char}

/-- Splitting off a sign loses no digit. -/
lemma mem_splitSign (hc : c ∈ cs) (hdigit : isDecimalDigit c = true) : c ∈ (splitSign cs).2 := by
  unfold splitSign
  split
  · refine (List.mem_cons.mp hc).resolve_left ?_
    rintro rfl
    exact absurd hdigit (by decide +kernel)
  · refine (List.mem_cons.mp hc).resolve_left ?_
    rintro rfl
    exact absurd hdigit (by decide +kernel)
  · exact hc

/-- A run of ASCII digits and the rest of a text have all its characters. -/
lemma isDigit_or_mem_of_span (hc : c ∈ cs) :
    c.isDigit = true ∨ c ∈ (cs.span Char.isDigit).2 := by
  rw [List.span_eq_takeWhile_dropWhile]
  rw [← List.takeWhile_append_dropWhile (p := Char.isDigit) (l := cs), List.mem_append] at hc
  exact hc.imp_left List.mem_takeWhile_imp

/-- The digits behind a point are ASCII digits. -/
lemma isDigit_or_mem_of_splitFraction (hc : c ∈ cs) (hdigit : isDecimalDigit c = true) :
    c.isDigit = true ∨ c ∈ (splitFraction cs).2 := by
  unfold splitFraction
  split
  · refine isDigit_or_mem_of_span ((List.mem_cons.mp hc).resolve_left ?_)
    rintro rfl
    exact absurd hdigit (by decide +kernel)
  · exact .inr hc

/-- The digits of an exponent are ASCII digits. -/
lemma isDigit_of_readExponent? {e : Int} (h : readExponent? cs = some e) (hc : c ∈ cs)
    (hdigit : isDecimalDigit c = true) : c.isDigit = true := by
  match cs, h with
  | first :: rest, h =>
      rw [readExponent?] at h
      split at h
      · rename_i hfirst
        dsimp only at h
        split at h
        · cases h
        · rename_i hdigits
          rw [Bool.or_eq_true, not_or, Bool.not_eq_true', Bool.not_eq_false] at hdigits
          refine List.all_eq_true.mp hdigits.2 c (mem_splitSign ?_ hdigit)
          refine (List.mem_cons.mp hc).resolve_left ?_
          rintro rfl
          rcases hfirst with rfl | rfl <;> exact absurd hdigit (by decide +kernel)
      · cases h

/-- **The digits of a numeral are ASCII digits.** -/
lemma isDigit_of_ofChars? {d : Decimal} (h : ofChars? cs = some d) (hc : c ∈ cs)
    (hdigit : isDecimalDigit c = true) : c.isDigit = true := by
  rcases isDigit_or_mem_of_span (mem_splitSign hc hdigit) with hwhole | hc
  · exact hwhole
  rcases isDigit_or_mem_of_splitFraction hc hdigit with hfraction | hc
  · exact hfraction
  rw [ofChars?] at h
  dsimp only at h
  split at h
  · cases h
  · obtain ⟨e, he, -⟩ := Option.bind_eq_some_iff.mp h
    exact isDigit_of_readExponent? he hc hdigit

end TableExplorer.Decimal
