import Mathlib
import TableExplorer.Proofs.Amount.Parts
import TableExplorer.Proofs.Amount.RoundTrip

/-!
Detecting a style and reading in it.  A style is detected by a pattern that allows digits of any
script, and read by one that knows ASCII digits only; so of the samples that follow the style that
is detected, those with ASCII digits are read, as the number nearest to what they denote, and the
others are not.

* `Parts.Of.stripDecorations_eq`: a text of a pattern stands between blanks.
* `AmountStyle.exists_read?`, `AmountStyle.read?_eq_none`: **which texts of a pattern are read**.
* `AmountStyle.reads_of_isNumeric_classify`: **the samples of a style that is detected**;
  `AmountStyle.reads_of_decimalSamples`: a detected column; `AmountStyle.refuses_of_arabicDigits`:
  one that is detected and has no number.
-/

namespace TableExplorer

/-! ### Blanks -/

namespace Text

variable {α : Type} {p q : α → Bool}

/-- Items that are sorted out anyway need not be dropped. -/
lemma filter_dropWhile (h : ∀ x, p x = true → q x = false) (xs : List α) :
    (xs.dropWhile p).filter q = xs.filter q := by
  induction xs with
  | nil => rfl
  | cons x xs ih =>
      rw [List.dropWhile_cons]
      split
      · rename_i hx
        rw [ih, List.filter_cons_of_neg (Bool.eq_false_iff.mp (h x hx))]
      · rfl

/-- Items that are sorted out anyway need not be cut at the ends. -/
lemma filter_trimEnds (h : ∀ x, p x = true → q x = false) (xs : List α) :
    (trimEnds p xs).filter q = xs.filter q := by
  rw [trimEnds, List.filter_reverse, filter_dropWhile h, List.filter_reverse, List.reverse_reverse,
    filter_dropWhile h]

/-- Items that are not dropped stay. -/
lemma mem_trimEnds_iff {x : α} (hx : p x = false) (xs : List α) : x ∈ trimEnds p xs ↔ x ∈ xs := by
  have hfilter := filter_trimEnds (p := p) (q := fun y => !p y) (fun y hy => by rw [hy]; rfl) xs
  have hmem : x ∈ (trimEnds p xs).filter (fun y => !p y) ↔ x ∈ xs.filter (fun y => !p y) := by
    rw [hfilter]
  rw [List.mem_filter, List.mem_filter, hx] at hmem
  simpa using hmem

end Text

namespace Amount

open Text (isBlank isDecimalDigit trimEnds)

namespace Parts

variable {p : Parts} {separator : Char} {cs : List Char}

/-- There is nothing in a text of a pattern that reading takes away at first. -/
lemma Of.plain_of_mem (h : p.Of separator cs) {c : Char} (hc : c ∈ cs) :
    isBlank c = false ∧ isCurrencySign c = false := by
  rcases h.isPlain c hc with hdigit | rfl | rfl | rfl
  · exact ⟨Text.isBlank_of_isDecimalDigit hdigit, isCurrencySign_of_isDecimalDigit hdigit⟩
  · decide
  · decide
  · decide

/-- A text of a pattern stands between blanks, and nothing else is taken away from it. -/
lemma Of.stripDecorations_eq (h : p.Of separator (trimEnds isBlank cs)) :
    stripDecorations cs = trimEnds isBlank cs := by
  rw [stripDecorations, ← Text.filter_trimEnds (p := isBlank) fun c hc => by rw [hc]; rfl]
  refine List.filter_eq_self.mpr fun c hc => ?_
  rw [(h.plain_of_mem hc).1, (h.plain_of_mem hc).2]
  rfl

end Parts

/-! ### Separators -/

/-- The two sides of a character and the character are the text. -/
lemma eq_of_splitAtLast? {separator : Char} {cs before after : List Char}
    (h : splitAtLast? separator cs = some (before, after)) : cs = before ++ separator :: after := by
  rw [splitAtLast?, List.span_eq_takeWhile_dropWhile] at h
  have hcut : cs.reverse.takeWhile (· != separator) ++ cs.reverse.dropWhile (· != separator) =
      cs.reverse := List.takeWhile_append_dropWhile
  have hfirst := List.head?_dropWhile_not (· != separator) cs.reverse
  cases hrest : cs.reverse.dropWhile (· != separator) with
  | nil =>
      rw [hrest] at h
      cases h
  | cons c rest =>
      rw [hrest] at h hcut hfirst
      obtain ⟨rfl, rfl⟩ := Prod.mk.inj (Option.some.inj h)
      obtain rfl : c = separator := by simpa using hfirst
      have hreverse := congrArg List.reverse hcut
      rw [List.reverse_reverse, List.reverse_append, List.reverse_cons, List.append_assoc,
        List.singleton_append] at hreverse
      exact hreverse.symm

/-- Resolving a separator takes away no other character. -/
lemma mem_resolveSeparator {separator c : Char} {before after : List Char} (hc : c ≠ separator)
    (h : c ∈ before ++ separator :: after) : c ∈ resolveSeparator separator before after := by
  have hmem : c ∈ before.filter (· != separator) ∨ c ∈ after := by
    rw [List.mem_append, List.mem_cons] at h
    exact h.imp (fun h => List.mem_filter.mpr ⟨h, bne_iff_ne.mpr hc⟩) (·.resolve_left hc)
  rw [resolveSeparator]
  split
  · exact List.mem_append.mpr (hmem.imp_right (List.mem_cons_of_mem _))
  · exact List.mem_append.mpr hmem

/-- Making commas points takes away no other character than a point. -/
lemma mem_commaToPoint {cs : List Char} {c : Char} (hc : c ∈ cs) (hpoint : c ≠ '.')
    (hcomma : c ≠ ',') : c ∈ commaToPoint cs :=
  List.mem_map.mpr ⟨c, List.mem_filter.mpr ⟨hc, bne_iff_ne.mpr hpoint⟩, if_neg hcomma⟩

/-- Resolving separators takes away no other characters. -/
lemma mem_resolveSeparators {cs : List Char} {c : Char} (hc : c ∈ cs) (hpoint : c ≠ '.')
    (hcomma : c ≠ ',') : c ∈ resolveSeparators cs := by
  unfold resolveSeparators
  split
  · exact hc
  · rename_i hsplit _
    exact mem_resolveSeparator hpoint (eq_of_splitAtLast? hsplit ▸ hc)
  · rename_i hsplit
    exact mem_resolveSeparator hcomma (eq_of_splitAtLast? hsplit ▸ hc)
  · split
    · exact mem_commaToPoint hc hpoint hcomma
    · exact List.mem_filter.mpr ⟨hc, bne_iff_ne.mpr hcomma⟩

/-! ### Digits that are not read -/

section

variable {cs : List Char} {c : Char} (hc : c ∈ cs) (hdigit : isDecimalDigit c = true)
  (hascii : c.isDigit = false)

include hc hdigit

/-- A digit is not taken away as a decoration. -/
lemma mem_stripDecorations : c ∈ stripDecorations cs := by
  refine List.mem_filter.mpr ⟨hc, ?_⟩
  rw [Text.isBlank_of_isDecimalDigit hdigit, isCurrencySign_of_isDecimalDigit hdigit]
  rfl

include hascii

/-- A text with a digit that is no ASCII digit is not a numeral. -/
lemma readFinite?_eq_none : readFinite? cs = none := by
  have hnumeral : Decimal.ofChars? cs = none := by
    cases h : Decimal.ofChars? cs with
    | none => rfl
    | some d =>
        rw [Decimal.isDigit_of_ofChars? h hc hdigit] at hascii
        cases hascii
  rw [readFinite?, hnumeral]
  rfl

/-- A text with a digit that is no ASCII digit is not read in the euro convention. -/
lemma readEuroChars?_eq_none : readEuroChars? cs = none := by
  obtain ⟨-, hpoint, hcomma⟩ := ne_of_isDecimalDigit hdigit
  have hmem := (Text.mem_trimEnds_iff (Text.isBlank_of_isDecimalDigit hdigit) cs).mpr hc
  rw [readEuroChars?]
  split
  · exact readFinite?_eq_none (mem_commaToPoint hmem hpoint hcomma) hdigit hascii
  · rfl

/-- A text with a digit that is no ASCII digit is not read by its separators either. -/
lemma readLocaleChars?_eq_none : readLocaleChars? cs = none := by
  obtain ⟨-, hpoint, hcomma⟩ := ne_of_isDecimalDigit hdigit
  have hmem := mem_stripDecorations hc hdigit
  rw [readLocaleChars?, readEuroChars?_eq_none hmem hdigit hascii]
  exact readFinite?_eq_none (mem_resolveSeparators hmem hpoint hcomma) hdigit hascii

end

/-! ### Numerals that are read -/

/-- **A numeral in the range of the numbers is read** as the number nearest to it. -/
lemma exists_readFinite? {cs : List Char} {d : Decimal} (h : Decimal.ofChars? cs = some d)
    (hrange : |d.value| ≤ Binary64.largestUnits) :
    ∃ x, readFinite? cs = some x ∧ Binary64.IsNearest d.value x := by
  have hpos : (0 : ℚ) < d.denominator := Nat.cast_pos.mpr d.denominator_pos
  have hle : d.numerator ≤ Binary64.largestUnits * d.denominator := by
    have hquotient : (0 : ℚ) ≤ d.numerator / d.denominator :=
      div_nonneg (Nat.cast_nonneg _) hpos.le
    rw [Decimal.value_eq, abs_signed, abs_of_nonneg hquotient, div_le_iff₀ hpos] at hrange
    exact_mod_cast hrange
  have hfinite : d.toBinary64.isFinite = true := by
    rw [Decimal.toBinary64_eq_ofRatio]
    exact Binary64.isFinite_ofRatio d.negative d.denominator_pos hle
  exact ⟨_, readFinite?_of_isFinite h hfinite, Decimal.isNearest_toBinary64 hfinite⟩

end Amount

/-! ### Styles -/

namespace AmountStyle

open Text (isBlank isDecimalDigit trimEnds)

/-- The pattern of a style. -/
def pattern : AmountStyle → List Char → Bool
  | .text => fun _ => false
  | .euro => Amount.isEuro
  | .plainDot => Amount.isPlainDot

/-- What stands in front of decimals. -/
def separator : AmountStyle → Char
  | .euro => ','
  | _ => '.'

/-- A text follows the pattern of a style, blanks around it allowed. -/
def follows (style : AmountStyle) (s : String) : Bool :=
  style.pattern (trimEnds isBlank s.toList)

/-- The number that a text denotes in a style. -/
def denoted (style : AmountStyle) (s : String) : Decimal :=
  Amount.denoted style.separator (trimEnds isBlank s.toList)

/-- The digits of the text are ASCII digits. -/
def HasAsciiDigits (s : String) : Prop :=
  ∀ c ∈ s.toList, isDecimalDigit c = true → c.isDigit = true

instance (s : String) : Decidable (HasAsciiDigits s) :=
  List.decidableBAll (fun c => isDecimalDigit c = true → c.isDigit = true) s.toList

variable {style : AmountStyle} {s : String}

/-- A text that follows a style has parts, and is read if their numeral is. -/
lemma exists_parts (h : style.follows s = true) :
    ∃ p : Amount.Parts, p.Of style.separator (trimEnds isBlank s.toList) ∧
      ∀ x, Amount.readFinite? p.plain = some x → style.read? s = some x := by
  cases style with
  | text => cases h
  | euro =>
      obtain ⟨p, hparts, hplain⟩ := Amount.exists_parts_of_isEuro h
      refine ⟨p, hparts, fun x hx => ?_⟩
      -- without blanks, what is read first is the text itself
      have htrim : trimEnds isBlank (trimEnds isBlank s.toList) = trimEnds isBlank s.toList :=
        Text.trimEnds_eq_self fun c hc => (hparts.plain_of_mem hc).1
      have heuro : Amount.readEuroChars? (trimEnds isBlank s.toList) = some x := by
        rw [Amount.readEuroChars?, htrim, if_pos (show Amount.isEuro _ = true from h), hplain, hx]
      rw [read?, Amount.readLocale?, Amount.readLocaleChars?, hparts.stripDecorations_eq, heuro]
  | plainDot =>
      obtain ⟨p, hparts, hplain⟩ := Amount.exists_parts_of_isPlainDot h
      refine ⟨p, hparts, fun x hx => ?_⟩
      rw [read?, Amount.readPlain?, hparts.stripDecorations_eq, hplain, hx]

/-- **A text that follows a style and has ASCII digits is read** as the number nearest to what it
denotes, if that is in the range of the numbers. -/
lemma exists_read? (h : style.follows s = true) (hascii : HasAsciiDigits s)
    (hrange : |(style.denoted s).value| ≤ Binary64.largestUnits) :
    ∃ x, style.read? s = some x ∧ Binary64.IsNearest (style.denoted s).value x := by
  obtain ⟨p, hparts, hread⟩ := exists_parts h
  have hnumeral : Decimal.ofChars? p.plain = some (style.denoted s) := by
    refine hparts.ofChars?_plain fun c hc hdigit => hascii c ?_ hdigit
    exact (Text.mem_trimEnds_iff (Text.isBlank_of_isDecimalDigit hdigit) _).mp hc
  obtain ⟨x, hx, hnearest⟩ := Amount.exists_readFinite? hnumeral hrange
  exact ⟨x, hread x hx, hnearest⟩

/-- **A text with other digits is not read** in any style. -/
lemma read?_eq_none (hascii : ¬HasAsciiDigits s) : style.read? s = none := by
  obtain ⟨c, hc, hdigit, hother⟩ : ∃ c ∈ s.toList, isDecimalDigit c = true ∧ c.isDigit = false := by
    simpa [HasAsciiDigits] using hascii
  cases style with
  | text => rfl
  | euro => exact Amount.readLocaleChars?_eq_none hc hdigit hother
  | plainDot =>
      exact Amount.readFinite?_eq_none (Amount.mem_stripDecorations hc hdigit) hdigit hother

/-- A style that is detected has a sample that follows it. -/
lemma exists_follows {samples : List String} (h : (classify samples).isNumeric = true) :
    ∃ s ∈ samples, (classify samples).follows s = true := by
  have hsample : ∀ test : List Char → Bool,
      0 < (samples.map fun s => trimEnds isBlank s.toList).countP test →
      ∃ s ∈ samples, test (trimEnds isBlank s.toList) = true := by
    intro test hpos
    rw [List.countP_map, List.countP_pos_iff] at hpos
    exact hpos
  simp only [classify] at h ⊢
  split at h
  · cases h
  · rename_i hsome
    rw [if_neg hsome]
    split
    · exact hsample Amount.isEuro (by omega)
    · exact hsample Amount.isPlainDot (by omega)

/-- **The samples of a style that is detected.**  One of them follows the style; and those that do
are read as the number nearest to what they denote if their digits are ASCII digits and the number
is in range, and are not read if they have other digits. -/
theorem reads_of_isNumeric_classify (samples : List String)
    (hnumeric : (classify samples).isNumeric = true) :
    let style := classify samples
    (∃ s ∈ samples, style.follows s = true) ∧
      ∀ s ∈ samples, style.follows s = true →
        (HasAsciiDigits s → |(style.denoted s).value| ≤ Binary64.largestUnits →
          ∃ x, style.read? s = some x ∧ Binary64.IsNearest (style.denoted s).value x) ∧
        (¬HasAsciiDigits s → style.read? s = none) :=
  ⟨exists_follows hnumeric, fun _ _ hfollows =>
    ⟨exists_read? hfollows, read?_eq_none⟩⟩

/-- Amounts in euros and a remark: the amounts are read. -/
def decimalSamples : List String := [" 1.234,50", "unknown", "7"]

/-- The amounts have a style, and those that follow it are read. -/
theorem reads_of_decimalSamples :
    (classify decimalSamples).isNumeric = true ∧
      (∃ s ∈ decimalSamples, euro.follows s = true) ∧
      ∃ x, euro.read? " 1.234,50" = some x ∧ Binary64.IsNearest (12345 / 10) x := by
  have hstyle : classify decimalSamples = .euro := by decide +kernel
  have hnumeric : (classify decimalSamples).isNumeric = true := by rw [hstyle]; rfl
  have hreads := reads_of_isNumeric_classify decimalSamples hnumeric
  rw [hstyle] at hreads
  obtain ⟨hsome, hall⟩ := hreads
  have hvalue : (euro.denoted " 1.234,50").value = 12345 / 10 := by
    have hdenoted : euro.denoted " 1.234,50" = ⟨false, 123450, -2⟩ := by decide +kernel
    rw [hdenoted, Decimal.value]
    norm_num [signed]
  have hread := (hall " 1.234,50" (by decide) (by decide +kernel)).1
  rw [hvalue] at hread
  have hlarge : 1235 ≤ Binary64.largestUnits := by decide +kernel
  have hsmall : |(12345 / 10 : ℚ)| ≤ (1235 : Nat) := by norm_num [abs_le]
  exact ⟨hnumeric, hsome, hread (by decide +kernel) (hsmall.trans (Nat.cast_le.mpr hlarge))⟩

/-- Digits that are decimal digits and no ASCII digits. -/
theorem refuses_of_arabicDigits :
    (classify ["١٢٣"]).isNumeric = true ∧
      (∀ s ∈ ["١٢٣"], (classify ["١٢٣"]).follows s = true) ∧
      ∀ s ∈ ["١٢٣"], (classify ["١٢٣"]).read? s = none := by
  decide +kernel

end AmountStyle

end TableExplorer
