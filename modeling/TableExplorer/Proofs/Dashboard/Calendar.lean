import Mathlib
import TableExplorer.Dashboard.Month
import TableExplorer.Proofs.Numeral.Digits

/-!
The calendar.  Months come one after another by year and then by number.  A year of four digits is
written in four digits and a month in two, so the texts of such months ascend as the months do.

* `Month.Before`: the order of the calendar.
* `Month.value_padded`, `Month.length_padded`: the number and the length of padded digits;
  `Month.lt_of_ofDigitChars_lt`: of as many digits, those of the smaller number come first.
* `Month.before_of_toList_text_lt`: **the texts of months ascend as the months do**.
* `Month.hasPlainYear_of_length_text_le`: a year that takes no more characters has four digits.
-/

namespace TableExplorer.Month

/-- A month comes before another in the calendar. -/
def Before (a b : Month) : Prop := a.year < b.year ∨ a.year = b.year ∧ a.month < b.month

instance : DecidableRel Before := fun _ _ => inferInstanceAs (Decidable (_ ∨ _))

/-- The year has four digits and no sign. -/
def HasPlainYear (m : Month) : Prop := 0 ≤ m.year ∧ m.year ≤ 9999

/-! ### Digits -/

/-- Padded digits are digits. -/
lemma isDigit_of_mem_padded {width n : Nat} {c : Char} (h : c ∈ padded width n) :
    c.isDigit = true := by
  rcases List.mem_append.mp h with h | h
  · rw [List.eq_of_mem_replicate h]
    decide
  · exact Nat.isDigit_of_mem_toDigits (by decide) (by decide) h

/-- There are at least as many digits as asked for. -/
lemma le_length_padded (width n : Nat) : width ≤ (padded width n).length := by
  rw [padded, List.length_append, List.length_replicate]
  omega

/-- A number with no more digits has as many digits as asked for. -/
lemma length_padded {width n : Nat} (hwidth : 0 < width) (h : n < 10 ^ width) :
    (padded width n).length = width := by
  have hdigits := (Nat.length_toDigits_le_iff (by decide) hwidth).mpr h
  rw [padded, List.length_append, List.length_replicate]
  omega

/-- Zeros in front of a number do not change it. -/
lemma value_padded (width n : Nat) : Nat.ofDigitChars 10 (padded width n) 0 = n := by
  rw [padded, Nat.ofDigitChars_append, Nat.ofDigitChars_replicate_zero, Nat.mul_zero,
    Nat.ofDigitChars_ten_toDigits]

/-- Of as many digits, those of the smaller number come first. -/
lemma lt_of_ofDigitChars_lt {cs ds : List Char} (hcs : ∀ c ∈ cs, c.isDigit = true)
    (hds : ∀ d ∈ ds, d.isDigit = true) (hlength : cs.length = ds.length)
    (h : Nat.ofDigitChars 10 cs 0 < Nat.ofDigitChars 10 ds 0) : cs < ds := by
  induction cs generalizing ds with
  | nil =>
      cases ds with
      | nil => exact absurd h (Nat.lt_irrefl _)
      | cons d ds => exact List.nil_lt_cons d ds
  | cons c cs ih =>
      cases ds with
      | nil => cases hlength
      | cons d ds =>
          have hc := Char.isDigit_iff_toNat.mp (hcs c List.mem_cons_self)
          have hd := Char.isDigit_iff_toNat.mp (hds d List.mem_cons_self)
          have hrest : ∀ e ∈ ds, e.isDigit = true := fun e he => hds e (List.mem_cons_of_mem _ he)
          have hbound := Decimal.ofDigitChars_lt hrest
          have hsame : cs.length = ds.length := Nat.succ.inj hlength
          rw [Nat.ofDigitChars_cons, Nat.ofDigitChars_cons, Nat.ofDigitChars_eq_ofDigitChars_zero,
            @Nat.ofDigitChars_eq_ofDigitChars_zero ds, hsame, Nat.mul_zero, Nat.zero_add,
            Nat.zero_add] at h
          rw [List.cons_lt_cons_iff]
          rcases Nat.lt_trichotomy c.toNat d.toNat with hlt | heq | hgt
          · exact Or.inl hlt
          · rw [heq] at h
            exact Or.inr ⟨Char.toNat_inj.mp heq, ih (fun e he => hcs e (List.mem_cons_of_mem _ he))
              hrest hsame (Nat.lt_of_add_lt_add_left h)⟩
          · -- a larger first digit outweighs all others
            have hstep : d.toNat - '0'.toNat + 1 ≤ c.toNat - '0'.toNat := by
              have hzero : '0'.toNat = 48 := rfl
              omega
            have hmul := Nat.mul_le_mul_left (10 ^ ds.length) hstep
            rw [Nat.mul_add, Nat.mul_one] at hmul
            omega

/-- Of texts that begin with as many characters, the one whose beginning comes first does. -/
lemma append_lt_append {as bs : List Char} (hlength : as.length = bs.length) (h : as < bs)
    (cs ds : List Char) : as ++ cs < bs ++ ds := by
  induction as generalizing bs with
  | nil =>
      cases bs with
      | nil => exact absurd h (List.lt_irrefl _)
      | cons b bs => cases hlength
  | cons a as ih =>
      cases bs with
      | nil => cases hlength
      | cons b bs =>
          rw [List.cons_append, List.cons_append, List.cons_lt_cons_iff]
          exact (List.cons_lt_cons_iff.mp h).imp_right fun hrest =>
            ⟨hrest.1, ih (Nat.succ.inj hlength) hrest.2⟩

/-! ### The texts of months -/

/-- A key denotes one of the twelve months. -/
lemma month_of_ofKey? {key : String} {m : Month} (h : ofKey? key = some m) :
    1 ≤ m.month ∧ m.month ≤ 12 := by
  rw [ofKey?] at h
  obtain ⟨⟨year, rest⟩, -, h⟩ := Option.bind_eq_some_iff.mp h
  dsimp only at h
  split at h
  · obtain ⟨⟨month, rest⟩, -, h⟩ := Option.bind_eq_some_iff.mp h
    dsimp only at h
    split at h
    · rename_i hmonth
      cases h
      exact hmonth.2
    · cases h
  · cases h

/-- A month with a plain year is written with a hyphen between year and month. -/
lemma toList_text {m : Month} (h : m.HasPlainYear) :
    m.text.toList = padded 4 m.year.natAbs ++ '-' :: padded 2 m.month := by
  rw [text, String.toList_ofList, yearText, if_neg (not_lt.mpr h.1), if_pos h.2]

/-- A month is written in ASCII characters. -/
lemma toNat_lt_of_mem_text {m : Month} {c : Char} (h : c ∈ m.text.toList) : c.toNat < 0x80 := by
  have hdigit : ∀ {width n : Nat}, c ∈ padded width n → c.toNat < 0x80 := fun h =>
    (Char.isDigit_iff_toNat.mp (isDigit_of_mem_padded h)).2.trans_lt (by decide)
  rw [text, String.toList_ofList, yearText, List.mem_append, List.mem_cons] at h
  rcases h with h | rfl | h
  · split at h
    · rcases List.mem_cons.mp h with rfl | h
      · decide
      · exact hdigit h
    · split at h
      · exact hdigit h
      · rcases List.mem_cons.mp h with rfl | h
        · decide
        · exact hdigit h
  · decide
  · exact hdigit h

/-- A year with a sign takes a character more. -/
lemma hasPlainYear_of_length_text_le {m : Month} (h : m.text.toList.length ≤ 7) :
    m.HasPlainYear := by
  have hyear := le_length_padded 4 m.year.natAbs
  have hmonth := le_length_padded 2 m.month
  rw [text, String.toList_ofList, yearText, List.length_append, List.length_cons] at h
  split at h
  · rw [List.length_cons] at h
    omega
  · split at h
    · exact ⟨by omega, by omega⟩
    · rw [List.length_cons] at h
      omega

/-- A plain year has at most four digits. -/
lemma HasPlainYear.natAbs_lt {m : Month} (h : m.HasPlainYear) : m.year.natAbs < 10 ^ 4 := by
  have hyear := h.2
  have hpos := h.1
  omega

/-- The text of an earlier month comes first. -/
lemma toList_text_lt {a b : Month} (ha : a.HasPlainYear) (hb : b.HasPlainYear)
    (hmonth : a.month ≤ 12) (hmonth' : b.month ≤ 12) (h : a.Before b) :
    a.text.toList < b.text.toList := by
  rw [toList_text ha, toList_text hb]
  rcases h with hlt | ⟨heq, hlt⟩
  · refine append_lt_append ?_ ?_ _ _
    · rw [length_padded (by decide) ha.natAbs_lt, length_padded (by decide) hb.natAbs_lt]
    · refine lt_of_ofDigitChars_lt (fun _ => isDigit_of_mem_padded)
        (fun _ => isDigit_of_mem_padded) ?_ ?_
      · rw [length_padded (by decide) ha.natAbs_lt, length_padded (by decide) hb.natAbs_lt]
      · rw [value_padded, value_padded]
        exact Int.natAbs_lt_natAbs_of_nonneg_of_lt ha.1 hlt
  · rw [heq]
    refine List.append_left_lt (List.cons_lt_cons_iff.mpr (Or.inr ⟨rfl, ?_⟩))
    refine lt_of_ofDigitChars_lt (fun _ => isDigit_of_mem_padded)
      (fun _ => isDigit_of_mem_padded) ?_ ?_
    · rw [length_padded (by decide) (by omega), length_padded (by decide) (by omega)]
    · rw [value_padded, value_padded]
      exact hlt

/-- Of two months, one is the other, or comes before it. -/
lemma before_trichotomy (a b : Month) : a.Before b ∨ a = b ∨ b.Before a := by
  rcases lt_trichotomy a.year b.year with hlt | heq | hgt
  · exact Or.inl (Or.inl hlt)
  · rcases Nat.lt_trichotomy a.month b.month with hlt | hmonth | hgt
    · exact Or.inl (Or.inr ⟨heq, hlt⟩)
    · refine Or.inr (Or.inl ?_)
      cases a
      cases b
      cases heq
      cases hmonth
      rfl
    · exact Or.inr (Or.inr (Or.inr ⟨heq.symm, hgt⟩))
  · exact Or.inr (Or.inr (Or.inl hgt))

/-- **The texts of months ascend as the months do.** -/
lemma before_of_toList_text_lt {a b : Month} (ha : a.HasPlainYear) (hb : b.HasPlainYear)
    (hmonth : a.month ≤ 12) (hmonth' : b.month ≤ 12) (h : a.text.toList < b.text.toList) :
    a.Before b := by
  rcases before_trichotomy a b with hlt | rfl | hgt
  · exact hlt
  · exact absurd h (List.lt_irrefl _)
  · exact absurd (toList_text_lt hb ha hmonth' hmonth hgt) (List.lt_asymm h)

end TableExplorer.Month
