import Mathlib
import TableExplorer.Proofs.Numeral.Digits

/-!
Texts of amounts with points between groups of three digits.  A `GroupedText` is such a text with
two decimals behind a comma, together with the proof that it is well-formed.  It follows the euro
pattern, and reading it means reading its digits with a decimal point.

* `exists_groupThousands`: **grouping cuts the digits into groups of three**, the first one of one
  to three digits.
* `GroupedText.isEuro_chars`: a grouped text follows the euro pattern.
* `GroupedText.readEuroChars?_chars`, `GroupedText.readLocaleChars?_chars`: **reading takes the
  grouping back**.
-/

namespace TableExplorer.Amount

open Text (isBlank isDecimalDigit)

/-- A decimal digit is no currency sign. -/
lemma isCurrencySign_of_isDecimalDigit {c : Char} (h : isDecimalDigit c = true) :
    isCurrencySign c = false := by
  rw [isCurrencySign, Bool.or_eq_false_iff, Bool.or_eq_false_iff, Bool.or_eq_false_iff]
  refine ⟨⟨⟨?_, ?_⟩, ?_⟩, ?_⟩ <;> refine beq_eq_false_iff_ne.mpr ?_ <;> rintro rfl <;>
    exact absurd h (by decide +kernel)

/-! ### Grouping -/

/-- Digits that come last one first, cut into groups of three from their beginning. -/
lemma exists_groupReversed (cs : List Char) (h : cs ≠ []) :
    ∃ (lead : List Char) (groups : List (List Char)),
      (groupReversed cs).reverse = lead ++ groups.flatMap ('.' :: ·) ∧
      cs.reverse = lead ++ groups.flatten ∧
      lead ≠ [] ∧ lead.length ≤ 3 ∧ ∀ group ∈ groups, group.length = 3 := by
  induction cs using groupReversed.induct with
  | case1 a b c d rest ih =>
      obtain ⟨lead, groups, htext, hdigits, hne, hlead, hgroups⟩ := ih (List.cons_ne_nil d rest)
      refine ⟨lead, groups ++ [[c, b, a]], ?_, ?_, hne, hlead, ?_⟩
      · rw [groupReversed]
        simp only [List.reverse_cons, List.append_assoc, List.cons_append, List.nil_append, htext,
          List.flatMap_append, List.flatMap_cons, List.flatMap_nil, List.append_nil]
      · rw [List.flatten_append, ← List.append_assoc, ← hdigits]
        simp
      · intro group hgroup
        rcases List.mem_append.mp hgroup with hgroup | hgroup
        · exact hgroups group hgroup
        · rw [List.mem_singleton.mp hgroup]
          rfl
  | case2 cs hshort =>
      have hlength : cs.length ≤ 3 := by
        match cs, hshort with
        | [], _ => exact Nat.zero_le 3
        | [_], _ => exact Nat.succ_le_succ (Nat.zero_le 2)
        | [_, _], _ => exact Nat.succ_le_succ (Nat.succ_le_succ (Nat.zero_le 1))
        | [_, _, _], _ => exact le_rfl
        | a :: b :: c :: d :: rest, hshort => exact absurd rfl (hshort a b c d rest)
      refine ⟨cs.reverse, [], ?_, ?_, ?_, ?_, fun group hgroup => nomatch hgroup⟩
      · rw [groupReversed, List.flatMap_nil, List.append_nil]
        exact hshort
      · rw [List.flatten_nil, List.append_nil]
      · rwa [Ne, List.reverse_eq_nil_iff]
      · rwa [List.length_reverse]

/-- **Grouping cuts the digits into groups of three**, the first one of one to three digits. -/
lemma exists_groupThousands (digits : List Char) (h : digits ≠ []) :
    ∃ (lead : List Char) (groups : List (List Char)),
      groupThousands digits = lead ++ groups.flatMap ('.' :: ·) ∧
      digits = lead ++ groups.flatten ∧
      lead ≠ [] ∧ lead.length ≤ 3 ∧ ∀ group ∈ groups, group.length = 3 := by
  have hcut := exists_groupReversed digits.reverse (by rwa [Ne, List.reverse_eq_nil_iff])
  rwa [List.reverse_reverse] at hcut

/-! ### The euro pattern -/

/-- Decimals may stand behind the first group. -/
lemma isEuroTail_comma {decimals : List Char} (hne : decimals ≠ [])
    (hdigits : ∀ c ∈ decimals, isDecimalDigit c = true) : isEuroTail (',' :: decimals) = true := by
  rw [isEuroTail, isDigits, Bool.and_eq_true, List.all_eq_true, Bool.not_eq_true',
    List.isEmpty_eq_false_iff]
  exact ⟨hne, hdigits⟩

/-- Groups of three digits may stand in front of what may stand behind the first group. -/
lemma isEuroTail_groups {groups : List (List Char)} {rest : List Char}
    (hlength : ∀ group ∈ groups, group.length = 3)
    (hdigits : ∀ group ∈ groups, ∀ c ∈ group, isDecimalDigit c = true)
    (hrest : isEuroTail rest = true) : isEuroTail (groups.flatMap ('.' :: ·) ++ rest) = true := by
  induction groups with
  | nil => exact hrest
  | cons group groups ih =>
      obtain ⟨a, b, c, rfl⟩ := List.length_eq_three.mp (hlength group List.mem_cons_self)
      have hmem : ∀ d ∈ [a, b, c], isDecimalDigit d = true := hdigits _ List.mem_cons_self
      have hothers := ih (fun g hg => hlength g (List.mem_cons_of_mem _ hg))
        fun g hg => hdigits g (List.mem_cons_of_mem _ hg)
      show isEuroTail ('.' :: a :: b :: c :: (groups.flatMap ('.' :: ·) ++ rest)) = true
      rw [isEuroTail, hmem a (by simp), hmem b (by simp), hmem c (by simp), hothers]
      rfl

/-- A minus is dropped, and nothing else in front of digits is. -/
lemma dropMinus_signText (negative : Bool) {whole : List Char} (hne : whole ≠ [])
    (hdigits : ∀ c ∈ whole, c.isDigit = true) (rest : List Char) :
    dropMinus ((Binary64.signText negative).toList ++ (whole ++ rest)) = whole ++ rest := by
  obtain ⟨c, cs, rfl⟩ := List.exists_cons_of_ne_nil hne
  have hc := hdigits c List.mem_cons_self
  cases negative with
  | true => rfl
  | false =>
      show dropMinus (c :: (cs ++ rest)) = _
      unfold dropMinus
      split
      · rename_i heq
        rw [(List.cons.inj heq).1] at hc
        exact absurd hc (by decide)
      · rfl

/-- One to three digits behind a minus or none, and what may stand behind them, follow the euro
pattern. -/
lemma isEuro_of_isEuroTail (negative : Bool) {lead tail : List Char} (hne : lead ≠ [])
    (hlength : lead.length ≤ 3) (hdigits : ∀ c ∈ lead, c.isDigit = true)
    (hhead : ∀ c ∈ tail.head?, isDecimalDigit c = false) (htail : isEuroTail tail = true) :
    isEuro ((Binary64.signText negative).toList ++ (lead ++ tail)) = true := by
  have hspan : (lead ++ tail).span isDecimalDigit = (lead, tail) :=
    span_append (fun c hc => Text.isDecimalDigit_of_isDigit (hdigits c hc)) hhead
  have hpos : 1 ≤ lead.length := List.length_pos_iff.mpr hne
  rw [isEuro, dropMinus_signText negative hne hdigits]
  simp only [hspan, htail, hpos, hlength, and_self, decide_true, Bool.and_self]

/-! ### Grouped texts -/

/-- An optional minus, one to three digits, groups of three digits behind points, and two decimals
behind a comma. -/
structure GroupedText where
  negative : Bool
  lead : List Char
  groups : List (List Char)
  decimals : List Char
  lead_ne_nil : lead ≠ []
  length_lead : lead.length ≤ 3
  length_group : ∀ group ∈ groups, group.length = 3
  length_decimals : decimals.length = 2
  isDigit : ∀ c ∈ lead ++ groups.flatten ++ decimals, c.isDigit = true

namespace GroupedText

variable (t : GroupedText)

/-- The digits in front of the comma. -/
def whole : List Char := t.lead ++ t.groups.flatten

/-- What stands behind the first group. -/
def tail : List Char := t.groups.flatMap ('.' :: ·) ++ ',' :: t.decimals

/-- The text. -/
def chars : List Char := (Binary64.signText t.negative).toList ++ (t.lead ++ t.tail)

/-- The digits without grouping and with a decimal point. -/
def digits : List Char := t.whole ++ '.' :: t.decimals

variable {t}

lemma isDigit_of_mem_whole {c : Char} (h : c ∈ t.whole) : c.isDigit = true :=
  t.isDigit c (List.mem_append_left _ h)

lemma isDigit_of_mem_lead {c : Char} (h : c ∈ t.lead) : c.isDigit = true :=
  isDigit_of_mem_whole (List.mem_append_left _ h)

lemma isDigit_of_mem_group {group : List Char} {c : Char} (hgroup : group ∈ t.groups)
    (h : c ∈ group) : c.isDigit = true :=
  isDigit_of_mem_whole (List.mem_append_right _ (List.mem_flatten.mpr ⟨group, hgroup, h⟩))

lemma isDigit_of_mem_decimals {c : Char} (h : c ∈ t.decimals) : c.isDigit = true :=
  t.isDigit c (List.mem_append_right _ h)

/-- A grouped text has no other characters than digits, points, commas and the minus. -/
lemma eq_of_mem_chars {c : Char} (h : c ∈ t.chars) :
    c.isDigit = true ∨ c = '-' ∨ c = '.' ∨ c = ',' := by
  rw [chars, tail] at h
  simp only [List.mem_append, List.mem_flatMap, List.mem_cons] at h
  rcases h with h | h | ⟨group, hgroup, rfl | h⟩ | rfl | h
  · cases hsign : t.negative <;> rw [hsign] at h
    · cases h
    · exact Or.inr (Or.inl (List.mem_singleton.mp h))
  · exact Or.inl (isDigit_of_mem_lead h)
  · exact Or.inr (Or.inr (Or.inl rfl))
  · exact Or.inl (isDigit_of_mem_group hgroup h)
  · exact Or.inr (Or.inr (Or.inr rfl))
  · exact Or.inl (isDigit_of_mem_decimals h)

/-! ### The pattern -/

/-- Groups of three digits and decimals follow the pattern behind the first group. -/
lemma isEuroTail_tail (t : GroupedText) : isEuroTail t.tail = true := by
  have hne : t.decimals ≠ [] := List.ne_nil_of_length_eq_add_one t.length_decimals
  refine isEuroTail_groups t.length_group (fun group hgroup c hc => ?_)
    (isEuroTail_comma hne fun c hc => ?_)
  · exact Text.isDecimalDigit_of_isDigit (isDigit_of_mem_group hgroup hc)
  · exact Text.isDecimalDigit_of_isDigit (isDigit_of_mem_decimals hc)

/-- The first character behind the first group is no digit. -/
lemma isDecimalDigit_head?_tail (t : GroupedText) :
    ∀ c ∈ t.tail.head?, isDecimalDigit c = false := by
  intro c hc
  rw [tail] at hc
  cases hgroups : t.groups <;> rw [hgroups] at hc <;> cases hc <;> decide +kernel

/-- **A grouped text follows the euro pattern.** -/
lemma isEuro_chars (t : GroupedText) : isEuro t.chars = true :=
  isEuro_of_isEuroTail t.negative t.lead_ne_nil t.length_lead (fun _ => isDigit_of_mem_lead)
    t.isDecimalDigit_head?_tail t.isEuroTail_tail

/-! ### Reading -/

lemma commaToPoint_append (as bs : List Char) :
    commaToPoint (as ++ bs) = commaToPoint as ++ commaToPoint bs := by
  rw [commaToPoint, List.filter_append, List.map_append]
  rfl

/-- A text without points and commas stays as it is. -/
lemma commaToPoint_eq_self {cs : List Char} (h : ∀ c ∈ cs, c ≠ '.' ∧ c ≠ ',') :
    commaToPoint cs = cs := by
  have hfilter : cs.filter (· != '.') = cs :=
    List.filter_eq_self.mpr fun c hc => bne_iff_ne.mpr (h c hc).1
  rw [commaToPoint, hfilter]
  calc cs.map (fun c => if c = ',' then '.' else c) = cs.map id :=
        List.map_congr_left fun c hc => if_neg (h c hc).2
    _ = cs := List.map_id cs

lemma commaToPoint_of_digits {cs : List Char} (h : ∀ c ∈ cs, isDecimalDigit c = true) :
    commaToPoint cs = cs := by
  refine commaToPoint_eq_self fun c hc => ⟨?_, ?_⟩
  · rintro rfl
    exact absurd (h _ hc) (by decide +kernel)
  · rintro rfl
    exact absurd (h _ hc) (by decide +kernel)

/-- The points in front of groups are taken out. -/
lemma commaToPoint_groups {groups : List (List Char)}
    (h : ∀ group ∈ groups, ∀ c ∈ group, isDecimalDigit c = true) :
    commaToPoint (groups.flatMap ('.' :: ·)) = groups.flatten := by
  induction groups with
  | nil => rfl
  | cons group groups ih =>
      have hgroup : commaToPoint ('.' :: group) = group :=
        commaToPoint_of_digits (h group List.mem_cons_self)
      rw [List.flatMap_cons, commaToPoint_append, hgroup, List.flatten_cons,
        ih fun g hg => h g (List.mem_cons_of_mem _ hg)]

lemma commaToPoint_lead_tail (t : GroupedText) : commaToPoint (t.lead ++ t.tail) = t.digits := by
  have hdecimals : commaToPoint (',' :: t.decimals) = '.' :: t.decimals :=
    congrArg ('.' :: ·) (commaToPoint_of_digits fun c hc =>
      Text.isDecimalDigit_of_isDigit (isDigit_of_mem_decimals hc))
  rw [tail, commaToPoint_append, commaToPoint_append, hdecimals,
    commaToPoint_of_digits fun c hc => Text.isDecimalDigit_of_isDigit (isDigit_of_mem_lead hc),
    commaToPoint_groups fun group hgroup c hc =>
      Text.isDecimalDigit_of_isDigit (isDigit_of_mem_group hgroup hc), digits, whole,
    List.append_assoc]

lemma commaToPoint_chars (t : GroupedText) :
    commaToPoint t.chars = (Binary64.signText t.negative).toList ++ t.digits := by
  rw [chars, commaToPoint_append, commaToPoint_lead_tail]
  cases t.negative <;> rfl

/-- Without its minus a text is its digits and their separators. -/
lemma filter_chars (t : GroupedText) : t.chars.filter (· != '-') = t.lead ++ t.tail := by
  have hkeep : (t.lead ++ t.tail).filter (· != '-') = t.lead ++ t.tail := by
    refine List.filter_eq_self.mpr fun c hc => bne_iff_ne.mpr ?_
    rintro rfl
    rw [tail] at hc
    simp only [List.mem_append, List.mem_flatMap, List.mem_cons] at hc
    rcases hc with hc | ⟨group, hgroup, hc | hc⟩ | hc | hc
    · exact absurd (isDigit_of_mem_lead hc) (by decide)
    · exact absurd hc (by decide)
    · exact absurd (isDigit_of_mem_group hgroup hc) (by decide)
    · exact absurd hc (by decide)
    · exact absurd (isDigit_of_mem_decimals hc) (by decide)
  rw [chars, List.filter_append, hkeep]
  cases t.negative <;> rfl

/-- There is nothing in a grouped text that reading takes away at first. -/
lemma plain_of_mem_chars {c : Char} (h : c ∈ t.chars) :
    isBlank c = false ∧ isCurrencySign c = false := by
  rcases eq_of_mem_chars h with hdigit | rfl | rfl | rfl
  · exact ⟨Text.isBlank_of_isDigit hdigit,
      isCurrencySign_of_isDecimalDigit (Text.isDecimalDigit_of_isDigit hdigit)⟩
  · decide
  · decide
  · decide

lemma trimEnds_chars (t : GroupedText) : Text.trimEnds isBlank t.chars = t.chars :=
  Text.trimEnds_eq_self fun _ hc => (plain_of_mem_chars hc).1

lemma stripDecorations_chars (t : GroupedText) : stripDecorations t.chars = t.chars :=
  List.filter_eq_self.mpr fun c hc => by
    rw [(plain_of_mem_chars hc).1, (plain_of_mem_chars hc).2]
    rfl

/-- **Reading takes the grouping back.** -/
lemma readEuroChars?_chars (t : GroupedText) :
    readEuroChars? t.chars = readFinite? ((Binary64.signText t.negative).toList ++ t.digits) := by
  rw [readEuroChars?, trimEnds_chars, if_pos t.isEuro_chars, commaToPoint_chars]

/-- Reading by the separators takes the grouping back as well. -/
lemma readLocaleChars?_chars {x : Binary64}
    (h : readFinite? ((Binary64.signText t.negative).toList ++ t.digits) = some x) :
    readLocaleChars? t.chars = some x := by
  rw [← readEuroChars?_chars] at h
  rw [readLocaleChars?, stripDecorations_chars, h]

end GroupedText

end TableExplorer.Amount
