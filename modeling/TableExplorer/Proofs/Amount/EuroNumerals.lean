import TableExplorer.Proofs.Amount.Detection
import TableExplorer.Proofs.Binary64.FiniteRange

/-!
The texts that are read as amounts of the euro pattern.  The pattern allows digits of any script,
and what it lets through is read as a numeral of ASCII digits; so the texts that are read are the
euro numerals of ASCII digits, between blanks, unless the number is beyond the range.

* `EuroNumeral`: such a numeral; `EuroNumeral.decimal`: the decimal that it denotes.
* `EuroNumeral.isEuro_chars`, `exists_euroNumeral`: **the texts of the pattern with ASCII digits**.
* `EuroNumeral.readEuroChars?_eq`: **what a euro numeral is read as**.
* `readEuro?_eq_some_iff`: **which texts are read, and as what**.
-/

namespace TableExplorer.Amount

open Text (isBlank isDecimalDigit trimEnds)
open Binary64 (IsNearest signText)

/-- An optional minus, one to three digits, groups of three digits behind points, and decimals
behind a comma, if there are any; all digits are ASCII digits. -/
structure EuroNumeral where
  negative : Bool
  lead : List Char
  groups : List (List Char)
  fraction : List Char
  lead_ne_nil : lead ≠ []
  length_lead : lead.length ≤ 3
  length_group : ∀ group ∈ groups, group.length = 3
  isDigit : ∀ c ∈ lead ++ groups.flatten ++ fraction, c.isDigit = true

namespace EuroNumeral

/-- What stands behind the first digits. -/
def tail (e : EuroNumeral) : List Char :=
  e.groups.flatMap ('.' :: ·) ++ withSeparator ',' e.fraction

/-- The text of a numeral. -/
def chars (e : EuroNumeral) : List Char := (signText e.negative).toList ++ (e.lead ++ e.tail)

/-- The decimal that a numeral denotes: that of its digits in a row, the last of them, as many as
stand behind the comma, being decimals. -/
def decimal (e : EuroNumeral) : Decimal :=
  ⟨e.negative, Decimal.digitsValue (e.lead ++ e.groups.flatten ++ e.fraction), -e.fraction.length⟩

variable {e : EuroNumeral}

lemma isDigit_of_mem_lead {c : Char} (h : c ∈ e.lead) : c.isDigit = true :=
  e.isDigit c (by simp [h])

lemma isDigit_of_mem_groups {c : Char} (h : c ∈ e.groups.flatten) : c.isDigit = true :=
  e.isDigit c (List.mem_append_left _ (List.mem_append_right _ h))

lemma isDigit_of_mem_fraction {c : Char} (h : c ∈ e.fraction) : c.isDigit = true :=
  e.isDigit c (List.mem_append_right _ h)

/-- Groups and decimals may stand behind the first digits. -/
lemma isEuroTail_tail (e : EuroNumeral) : isEuroTail e.tail = true := by
  refine isEuroTail_groups e.length_group (fun group hgroup c hc => ?_) ?_
  · exact Text.isDecimalDigit_of_isDigit
      (isDigit_of_mem_groups (List.mem_flatten.mpr ⟨group, hgroup, hc⟩))
  · by_cases hnil : e.fraction = []
    · rw [hnil]
      rfl
    · rw [withSeparator_of_ne_nil ',' hnil]
      exact isEuroTail_comma hnil fun c hc =>
        Text.isDecimalDigit_of_isDigit (isDigit_of_mem_fraction hc)

/-- Behind the first digits there is a separator, or nothing. -/
lemma isDecimalDigit_head?_tail (e : EuroNumeral) :
    ∀ c ∈ e.tail.head?, isDecimalDigit c = false := by
  intro c hc
  rw [tail] at hc
  cases hgroups : e.groups with
  | cons group groups =>
      rw [hgroups] at hc
      cases hc
      decide +kernel
  | nil =>
      rw [hgroups] at hc
      cases hfraction : e.fraction <;> rw [hfraction] at hc <;> cases hc
      decide +kernel

/-- **A euro numeral follows the pattern.** -/
lemma isEuro_chars (e : EuroNumeral) : isEuro e.chars = true :=
  isEuro_of_isEuroTail e.negative e.lead_ne_nil e.length_lead (fun _ => isDigit_of_mem_lead)
    e.isDecimalDigit_head?_tail e.isEuroTail_tail

/-- Without grouping, and with a point for its comma, a euro numeral is the numeral of its
decimal. -/
lemma ofChars?_commaToPoint (e : EuroNumeral) :
    Decimal.ofChars? (commaToPoint e.chars) = some e.decimal := by
  have hne : e.lead ++ e.groups.flatten ≠ [] := fun hnil =>
    e.lead_ne_nil (List.append_eq_nil_iff.mp hnil).1
  have hlead : ∀ c ∈ e.lead, isDecimalDigit c = true := fun c hc =>
    Text.isDecimalDigit_of_isDigit (isDigit_of_mem_lead hc)
  have hgroups : ∀ c ∈ e.groups.flatten, isDecimalDigit c = true := fun c hc =>
    Text.isDecimalDigit_of_isDigit (isDigit_of_mem_groups hc)
  have hfraction : ∀ c ∈ e.fraction, isDecimalDigit c = true := fun c hc =>
    Text.isDecimalDigit_of_isDigit (isDigit_of_mem_fraction hc)
  have hplain := commaToPoint_grouped e.negative hlead hgroups hfraction
  rw [chars, tail, ← List.append_assoc e.lead, hplain,
    Decimal.ofChars?_positional e.negative hne e.isDigit, decimal]

/-- **What a euro numeral is read as**: the number nearest to its decimal, unless that is beyond the
range. -/
lemma readFinite?_commaToPoint_eq_some_iff {x : Binary64} :
    readFinite? (commaToPoint e.chars) = some x ↔
      e.decimal.InRange ∧ IsNearest e.decimal.value x ∧ x.isNegative = e.negative := by
  have hread : readFinite? (commaToPoint e.chars) =
      if e.decimal.toBinary64.isFinite then some e.decimal.toBinary64 else none := by
    rw [readFinite?, ofChars?_commaToPoint]
    rfl
  rw [hread]
  by_cases hrange : e.decimal.InRange
  · rw [if_pos (Decimal.isFinite_toBinary64_iff.mpr hrange), Option.some_inj,
      Decimal.toBinary64_eq_iff hrange]
    exact ⟨fun h => ⟨hrange, h⟩, fun h => h.2⟩
  · rw [if_neg (mt Decimal.isFinite_toBinary64_iff.mp hrange)]
    exact iff_of_false (Option.some_ne_none x).symm fun h => hrange h.1

end EuroNumeral

/-- **A text of the pattern with ASCII digits** is a euro numeral. -/
lemma exists_euroNumeral {cs : List Char} (h : isEuro cs = true)
    (hascii : ∀ c ∈ cs, isDecimalDigit c = true → c.isDigit = true) :
    ∃ e : EuroNumeral, cs = e.chars := by
  obtain ⟨negative, lead, tail, hspan, hcs, -, hlead⟩ := exists_lead_tail cs
  rw [isEuro, hspan, Bool.and_eq_true, decide_eq_true_iff] at h
  obtain ⟨⟨hpos, hlength⟩, htail⟩ := h
  obtain ⟨groups, fraction, rfl, hgroups, hdigits⟩ := exists_groups_of_isEuroTail htail
  refine ⟨⟨negative, lead, groups, fraction, List.length_pos_iff.mp hpos, hlength, hgroups,
    fun c hc => ?_⟩, hcs⟩
  rw [List.append_assoc, List.mem_append] at hc
  have hdigit : isDecimalDigit c = true := hc.elim (hlead c) (hdigits c)
  refine hascii c ?_ hdigit
  rw [hcs, List.mem_append, List.mem_append]
  refine .inr (hc.imp_right fun hc => ?_)
  rw [List.mem_append] at hc ⊢
  refine hc.imp (fun hc => ?_) fun hc => ?_
  · obtain ⟨group, hgroup, hc⟩ := List.mem_flatten.mp hc
    exact List.mem_flatMap.mpr ⟨group, hgroup, List.mem_cons_of_mem _ hc⟩
  · rw [withSeparator_of_ne_nil ',' (List.ne_nil_of_mem hc)]
    exact List.mem_cons_of_mem _ hc

/-- **Which texts are read in the euro convention, and as what.**  A text is read as `x` if and only
if, without the blanks around it, it is a euro numeral of ASCII digits whose decimal is in the range
of the finite numbers, and `x` is the number nearest to that decimal, with its sign. -/
theorem readEuro?_eq_some_iff (s : String) (x : Binary64) :
    readEuro? s = some x ↔ ∃ e : EuroNumeral, (Text.trim s).toList = e.chars ∧
      e.decimal.InRange ∧ IsNearest e.decimal.value x ∧ x.isNegative = e.negative := by
  have htrim : (Text.trim s).toList = trimEnds isBlank s.toList := by
    rw [Text.trim, String.toList_ofList]
  rw [htrim, readEuro?, readEuroChars?]
  constructor
  · intro h
    split at h
    · rename_i heuro
      have hascii : ∀ c ∈ trimEnds isBlank s.toList, isDecimalDigit c = true →
          c.isDigit = true := by
        intro c hc hdigit
        obtain ⟨-, hpoint, hcomma⟩ := ne_of_isDecimalDigit hdigit
        by_contra hother
        rw [readFinite?_eq_none (mem_commaToPoint hc hpoint hcomma) hdigit
          (Bool.eq_false_iff.mpr hother)] at h
        cases h
      obtain ⟨e, he⟩ := exists_euroNumeral heuro hascii
      rw [he] at h
      exact ⟨e, he, EuroNumeral.readFinite?_commaToPoint_eq_some_iff.mp h⟩
    · cases h
  · rintro ⟨e, he, hx⟩
    rw [he, if_pos e.isEuro_chars]
    exact EuroNumeral.readFinite?_commaToPoint_eq_some_iff.mpr hx

end TableExplorer.Amount
