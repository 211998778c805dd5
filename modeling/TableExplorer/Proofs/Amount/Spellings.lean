import TableExplorer.Proofs.Amount.Detection
import TableExplorer.Proofs.Amount.Positional

/-!
Spellings of an amount.  An amount with two decimals is spelled with a comma or a point in front of
them, and its whole part with or without the other separator between groups of three digits; a whole
amount is spelled with either separator or none, if it has so many digits that a separator cannot be
mistaken for a decimal one.  Each spelling takes its own way through the reader: that of the euro
pattern, that of two separators, of one, or of none; but they all come to the same numeral.

* `Decorated`: a text with blanks and currency signs put in; `decorated_iff`: **they are taken
  out**.
* `Spells`: a text is the spelling of a numeral, whichever way it is read;
  `Spells.readLocaleChars?_eq`: **it is read as that numeral**.
* `Separated.spells_decimalComma`, `Separated.spells_decimalPoint`: **spellings with decimals**,
  wherever the digits in front of them are separated; `Separated.spells_whole`: **whole spellings**.
* `groupedBy`, `separated_groupedBy`: digits with a separator between groups of three.
* `readLocale?_spellings`: **all spellings of one amount read the same**.
-/

namespace TableExplorer.Amount

open Text (isBlank isDecimalDigit trimEnds)
open Binary64 (IsNearest signText)

/-! ### Decorations -/

/-- The second text is the first one with blanks and currency signs put in anywhere. -/
inductive Decorated : List Char → List Char → Prop
  | nil : Decorated [] []
  | keep (c : Char) {plain text : List Char} (h : Decorated plain text) :
    Decorated (c :: plain) (c :: text)
  | insert {c : Char} (hc : isBlank c = true ∨ isCurrencySign c = true) {plain text : List Char}
    (h : Decorated plain text) : Decorated plain (c :: text)

/-- The character is none that reading takes away at first. -/
def IsPlain (c : Char) : Prop := isBlank c = false ∧ isCurrencySign c = false

/-- **What is put in is taken out**, and nothing else is. -/
lemma decorated_iff {plain text : List Char} (hplain : ∀ c ∈ plain, IsPlain c) :
    Decorated plain text ↔ stripDecorations text = plain := by
  constructor
  · intro h
    induction h with
    | nil => rfl
    | keep c _ ih =>
        obtain ⟨hc, hrest⟩ := List.forall_mem_cons.mp hplain
        rw [stripDecorations, List.filter_cons_of_pos (by rw [hc.1, hc.2]; rfl)]
        exact congrArg (c :: ·) (ih hrest)
    | insert hc _ ih =>
        rw [stripDecorations, List.filter_cons_of_neg (by rcases hc with hc | hc <;> simp [hc])]
        exact ih hplain
  · rintro rfl
    clear hplain
    induction text with
    | nil => exact .nil
    | cons c text ih =>
        rw [stripDecorations, List.filter_cons]
        split
        · exact .keep c ih
        · rename_i hc
          refine .insert ?_ ih
          simpa [← Bool.not_eq_true, imp_iff_not_or] using hc

/-! ### Where a text is split -/

/-- A text is split where a character stands last. -/
lemma splitAtLast?_append {c : Char} {before after : List Char} (h : c ∉ after) :
    splitAtLast? c (before ++ c :: after) = some (before, after) := by
  have hspan : (after.reverse ++ c :: before.reverse).span (· != c) =
      (after.reverse, c :: before.reverse) := by
    refine span_append (fun d hd => bne_iff_ne.mpr ?_) fun d hd => ?_
    · rintro rfl
      exact h (List.mem_reverse.mp hd)
    · obtain rfl := Option.mem_some.mp hd
      exact bne_self_eq_false _
  rw [splitAtLast?, List.reverse_append, List.reverse_cons, List.append_assoc,
    List.singleton_append, hspan]
  simp only [List.reverse_reverse]

/-- A text without a character is not split at it. -/
lemma splitAtLast?_eq_none {c : Char} {cs : List Char} (h : c ∉ cs) : splitAtLast? c cs = none := by
  have hspan : (cs.reverse ++ []).span (· != c) = (cs.reverse, []) := by
    refine span_append (fun d hd => bne_iff_ne.mpr ?_) fun d hd => nomatch hd
    rintro rfl
    exact h (List.mem_reverse.mp hd)
  rw [List.append_nil] at hspan
  rw [splitAtLast?, hspan]

/-- A character of a text stands last somewhere. -/
lemma exists_last_of_mem {c : Char} {cs : List Char} (h : c ∈ cs) :
    ∃ before after, cs = before ++ c :: after ∧ c ∉ after := by
  obtain ⟨after, before, hcs, hafter⟩ := List.eq_append_cons_of_mem (List.mem_reverse.mpr h)
  refine ⟨before.reverse, after.reverse, ?_, fun hmem => hafter (List.mem_reverse.mp hmem)⟩
  rw [← List.reverse_reverse cs, hcs, List.reverse_append, List.reverse_cons, List.append_assoc,
    List.singleton_append]

/-- Behind the last occurrence of a character stands all of an ending without the character. -/
lemma exists_splitAtLast?_append {c : Char} {cs ending : List Char} (hmem : c ∈ cs)
    (hending : c ∉ ending) : ∃ before after,
      splitAtLast? c (cs ++ ending) = some (before, after) ∧ ending.length ≤ after.length := by
  obtain ⟨before, after, rfl, hafter⟩ := exists_last_of_mem hmem
  refine ⟨before, after ++ ending, ?_, ?_⟩
  · rw [List.append_assoc, List.cons_append]
    exact splitAtLast?_append fun hbehind =>
      (List.mem_append.mp hbehind).elim hafter hending
  · rw [List.length_append]
    exact Nat.le_add_left _ _

/-! ### Spellings of a numeral -/

/-- A text is a spelling of a numeral: this is what its separators mean, and also what the euro
pattern makes of it, if the text follows it. -/
structure Spells (cs numeral : List Char) : Prop where
  plain : ∀ c ∈ cs, IsPlain c
  separators : resolveSeparators cs = numeral
  pattern : isEuro cs = true → commaToPoint cs = numeral

/-- **A spelling is read as its numeral**, with any decorations. -/
lemma Spells.readLocaleChars?_eq {cs numeral text : List Char} (h : Spells cs numeral)
    (htext : Decorated cs text) : readLocaleChars? text = readFinite? numeral := by
  have hstrip := (decorated_iff h.plain).mp htext
  have htrim : trimEnds isBlank cs = cs := Text.trimEnds_eq_self fun c hc => (h.plain c hc).1
  rw [readLocaleChars?, hstrip, readEuroChars?, htrim, h.separators]
  by_cases heuro : isEuro cs = true
  · rw [if_pos heuro, h.pattern heuro]
    cases readFinite? numeral <;> rfl
  · rw [if_neg heuro]

/-- Digits, separators and the minus are plain. -/
lemma isPlain_of_digit_or {c : Char} (h : c.isDigit = true ∨ c = '-' ∨ c = '.' ∨ c = ',') :
    IsPlain c := by
  unfold IsPlain
  rcases h with h | rfl | rfl | rfl
  · exact ⟨Text.isBlank_of_isDigit h,
      isCurrencySign_of_isDecimalDigit (Text.isDecimalDigit_of_isDigit h)⟩
  all_goals decide

/-- Behind a comma a text of the euro pattern has digits only. -/
lemma isEuro_eq_false_of_comma {as bs : List Char} {c : Char} (has : ',' ∈ as) (hc : c ∈ bs)
    (hother : isDecimalDigit c = false) : isEuro (as ++ bs) = false := by
  obtain ⟨before, after, rfl, hbefore⟩ := List.eq_append_cons_of_mem has
  have hbehind : behind ',' (before ++ ',' :: after ++ bs) = after ++ bs := by
    rw [List.append_assoc, behind_append fun d hd => ne_of_mem_of_not_mem hd hbefore]
    rfl
  by_contra heuro
  obtain ⟨p, hp, -⟩ := exists_parts_of_isEuro (Bool.not_eq_false _ ▸ heuro)
  have hdigit : isDecimalDigit c = true := by
    refine p.isDigit c (List.mem_append_right _ ?_)
    rw [← hp.decimals, hbehind]
    exact List.mem_append_right _ hc
  rw [hother] at hdigit
  cases hdigit

/-! ### Separated digits -/

/-- There is no separator in a sign and digits. -/
lemma ne_separator_of_mem {negative : Bool} {digits : List Char}
    (hdigits : ∀ c ∈ digits, c.isDigit = true) {separator : Char}
    (hseparator : separator = '.' ∨ separator = ',') {c : Char}
    (hc : c ∈ (signText negative).toList ++ digits) : c ≠ separator := by
  rintro rfl
  rcases List.mem_append.mp hc with hc | hc
  · rw [eq_of_mem_signText hc] at hseparator
    exact absurd hseparator (by decide)
  · rcases hseparator with rfl | rfl <;> exact absurd (hdigits _ hc) (by decide)

/-- A text without a separator is kept as it is. -/
lemma filter_eq_of_notMem {separator : Char} {cs : List Char} (h : separator ∉ cs) :
    cs.filter (· != separator) = cs :=
  List.filter_eq_self.mpr fun _ hc => bne_iff_ne.mpr (ne_of_mem_of_not_mem hc h)

/-- A text is a sign and digits, with a separator put in somewhere. -/
structure Separated (separator : Char) (negative : Bool) (digits cs : List Char) : Prop where
  isSeparator : separator = '.' ∨ separator = ','
  isDigit : ∀ c ∈ digits, c.isDigit = true
  kept : cs.filter (· != separator) = (signText negative).toList ++ digits

namespace Separated

variable {separator : Char} {negative : Bool} {digits decimals cs : List Char}

/-- The characters of a sign and digits. -/
lemma of_mem_kept (h : Separated separator negative digits cs) {c : Char}
    (hc : c ∈ (signText negative).toList ++ digits) : c.isDigit = true ∨ c = '-' := by
  rcases List.mem_append.mp hc with hc | hc
  · exact .inr (eq_of_mem_signText hc)
  · exact .inl (h.isDigit c hc)

/-- The characters of separated digits. -/
lemma of_mem (h : Separated separator negative digits cs) {c : Char} (hc : c ∈ cs) :
    c = separator ∨ c.isDigit = true ∨ c = '-' := by
  by_cases hseparator : c = separator
  · exact .inl hseparator
  · refine .inr (h.of_mem_kept ?_)
    rw [← h.kept]
    exact List.mem_filter.mpr ⟨hc, bne_iff_ne.mpr hseparator⟩

/-- There is no other separator. -/
lemma notMem_of_ne (h : Separated separator negative digits cs) {other : Char}
    (hother : other = '.' ∨ other = ',') (hne : other ≠ separator) : other ∉ cs := by
  intro hmem
  rcases h.of_mem hmem with heq | hdigit | hminus
  · exact hne heq
  · rcases hother with rfl | rfl <;> exact absurd hdigit (by decide)
  · rcases hother with rfl | rfl <;> exact absurd hminus (by decide)

/-- Without separators the text is the sign and the digits. -/
lemma eq_of_notMem (h : Separated separator negative digits cs) (hnone : separator ∉ cs) :
    cs = (signText negative).toList ++ digits := by
  rw [← h.kept, filter_eq_of_notMem hnone]

lemma isPlain (h : Separated separator negative digits cs) {c : Char} (hc : c ∈ cs) :
    IsPlain c := by
  refine isPlain_of_digit_or ?_
  rcases h.of_mem hc with rfl | hdigit | rfl
  · exact .inr (.inr h.isSeparator)
  · exact .inl hdigit
  · exact .inr (.inl rfl)

/-- Points between digits are taken out, wherever they stand. -/
lemma commaToPoint_eq (h : Separated '.' negative digits cs) :
    commaToPoint cs = (signText negative).toList ++ digits := by
  rw [commaToPoint, h.kept]
  calc ((signText negative).toList ++ digits).map (fun c => if c = ',' then '.' else c)
      = ((signText negative).toList ++ digits).map id :=
        List.map_congr_left fun c hc => if_neg (ne_separator_of_mem h.isDigit (.inr rfl) hc)
    _ = (signText negative).toList ++ digits := List.map_id _

/-! ### Spellings with decimals -/

section

variable (hdecimals : ∀ c ∈ decimals, c.isDigit = true)

include hdecimals

/-- There is no separator in decimals. -/
lemma notMem_decimals {c : Char} (hc : c = '.' ∨ c = ',') : c ∉ decimals := fun hmem =>
  ne_separator_of_mem hdecimals hc (List.mem_append_right (signText false).toList hmem) rfl

/-- Separated digits with decimals are plain. -/
lemma isPlain_decimals (h : Separated separator negative digits cs) {point : Char}
    (hpoint : point = '.' ∨ point = ',') {c : Char} (hc : c ∈ cs ++ point :: decimals) :
    IsPlain c := by
  rcases List.mem_append.mp hc with hc | hc
  · exact h.isPlain hc
  · refine isPlain_of_digit_or ?_
    rcases List.mem_cons.mp hc with rfl | hc
    · exact .inr (.inr hpoint)
    · exact .inl (hdecimals c hc)

variable (htwo : decimals.length = 2)

include htwo

/-- A separator with two digits behind it is decimal. -/
lemma resolveSeparator_decimals (point : Char) (before : List Char) :
    resolveSeparator point before decimals = before.filter (· != point) ++ '.' :: decimals :=
  if_pos ⟨htwo, List.all_eq_true.mpr hdecimals⟩

/-- Without separators, the one in front of two decimals is decimal. -/
lemma resolveSeparator_of_notMem (h : Separated separator negative digits cs)
    (hnone : separator ∉ cs) {point : Char} (hpoint : point ∉ cs) :
    resolveSeparator point cs decimals =
      (signText negative).toList ++ (digits ++ '.' :: decimals) := by
  rw [resolveSeparator_decimals hdecimals htwo, filter_eq_of_notMem hpoint, h.eq_of_notMem hnone,
    List.append_assoc]

/-- **A comma in front of two decimals** is decimal, whatever points stand in front of it. -/
lemma spells_decimalComma (h : Separated '.' negative digits cs) :
    Spells (cs ++ ',' :: decimals) ((signText negative).toList ++ (digits ++ '.' :: decimals)) := by
  have hcomma : ',' ∉ cs := h.notMem_of_ne (.inr rfl) (by decide)
  have hending : '.' ∉ ',' :: decimals := by
    simp [notMem_decimals hdecimals (.inl rfl)]
  have hdecimal : commaToPoint (',' :: decimals) = '.' :: decimals :=
    congrArg ('.' :: ·) (GroupedText.commaToPoint_of_digits fun c hc =>
      Text.isDecimalDigit_of_isDigit (hdecimals c hc))
  have hpattern : commaToPoint (cs ++ ',' :: decimals) =
      (signText negative).toList ++ (digits ++ '.' :: decimals) := by
    rw [GroupedText.commaToPoint_append, h.commaToPoint_eq, hdecimal, List.append_assoc]
  refine ⟨fun c => h.isPlain_decimals hdecimals (.inr rfl), ?_, fun _ => hpattern⟩
  rw [resolveSeparators, splitAtLast?_append (notMem_decimals hdecimals (.inr rfl))]
  by_cases hmem : '.' ∈ cs
  · -- the last point stands in front of the comma
    obtain ⟨before, after, hlast, hlonger⟩ := exists_splitAtLast?_append hmem hending
    have hlt : decimals.length < after.length := hlonger
    simp only [hlast, if_pos hlt, hpattern]
  · have hnone : '.' ∉ cs ++ ',' :: decimals := fun hc =>
      (List.mem_append.mp hc).elim hmem hending
    simp only [splitAtLast?_eq_none hnone,
      h.resolveSeparator_of_notMem hdecimals htwo hmem hcomma]

/-- **A point in front of two decimals** is decimal, whatever commas stand in front of it. -/
lemma spells_decimalPoint (h : Separated ',' negative digits cs) (hne : digits ≠ []) :
    Spells (cs ++ '.' :: decimals) ((signText negative).toList ++ (digits ++ '.' :: decimals)) := by
  have hpoint : '.' ∉ cs := h.notMem_of_ne (.inl rfl) (by decide)
  have hending : ',' ∉ '.' :: decimals := by
    simp [notMem_decimals hdecimals (.inr rfl)]
  have heuro : isEuro (cs ++ '.' :: decimals) = false := by
    by_cases hmem : ',' ∈ cs
    · exact isEuro_eq_false_of_comma hmem List.mem_cons_self (by decide +kernel)
    · -- a group behind a point would have three digits
      have hnil : decimals ≠ [] := List.ne_nil_of_length_eq_add_one htwo
      have hall : ∀ c ∈ digits ++ decimals, c.isDigit = true := fun c hc =>
        (List.mem_append.mp hc).elim (h.isDigit c) (hdecimals c)
      rw [← Bool.not_eq_true, h.eq_of_notMem hmem, List.append_assoc,
        ← Decimal.behindPoint_of_ne_nil hnil, isEuro_positional negative hne hall]
      rintro ⟨-, hempty | hthree⟩
      · exact hnil hempty
      · omega
  refine ⟨fun c => h.isPlain_decimals hdecimals (.inl rfl), ?_, fun htrue => ?_⟩
  · rw [resolveSeparators, splitAtLast?_append (notMem_decimals hdecimals (.inl rfl))]
    by_cases hmem : ',' ∈ cs
    · -- the last comma stands in front of the point
      obtain ⟨before, after, hlast, hlonger⟩ := exists_splitAtLast?_append hmem hending
      have hnot : ¬after.length < decimals.length := by
        rw [List.length_cons] at hlonger
        omega
      simp only [hlast, if_neg hnot]
      rw [List.filter_append, h.kept, filter_eq_of_notMem hending, List.append_assoc]
    · have hnone : ',' ∉ cs ++ '.' :: decimals := fun hc =>
        (List.mem_append.mp hc).elim hmem hending
      simp only [splitAtLast?_eq_none hnone,
        h.resolveSeparator_of_notMem hdecimals htwo hmem hpoint]
  · rw [heuro] at htrue
    cases htrue

end

/-! ### Whole spellings -/

/-- **A whole amount** is the digits without their separators, unless two of them stand behind the
last separator, or the text follows the euro pattern with a comma. -/
lemma spells_whole (h : Separated separator negative digits cs)
    (hlast : ∀ before after, splitAtLast? separator cs = some (before, after) → after.length ≠ 2)
    (hpattern : separator = ',' → isEuro cs = false) :
    Spells cs ((signText negative).toList ++ digits) := by
  refine ⟨fun c => h.isPlain, ?_, fun heuro => ?_⟩
  · by_cases hmem : separator ∈ cs
    · obtain ⟨before, after, hcs, hafter⟩ := exists_last_of_mem hmem
      have hsplit : splitAtLast? separator cs = some (before, after) :=
        hcs ▸ splitAtLast?_append hafter
      have hresolve : resolveSeparator separator before after =
          (signText negative).toList ++ digits := by
        rw [resolveSeparator, if_neg fun htwo => hlast before after hsplit htwo.1, ← h.kept, hcs,
          List.filter_append, List.filter_cons_of_neg (by simp),
          filter_eq_of_notMem hafter]
      rcases h.isSeparator with rfl | rfl
      · have hnone := splitAtLast?_eq_none (h.notMem_of_ne (.inr rfl) (by decide))
        simp only [resolveSeparators, hsplit, hnone, hresolve]
      · have hnone := splitAtLast?_eq_none (h.notMem_of_ne (.inl rfl) (by decide))
        simp only [resolveSeparators, hsplit, hnone, hresolve]
    · have hnone : ∀ c, c = '.' ∨ c = ',' → splitAtLast? c cs = none := by
        intro c hc
        by_cases heq : c = separator
        · exact splitAtLast?_eq_none (heq ▸ hmem)
        · exact splitAtLast?_eq_none (h.notMem_of_ne hc heq)
      simp only [resolveSeparators, hnone '.' (.inl rfl), hnone ',' (.inr rfl)]
      exact h.eq_of_notMem hmem
  · rcases h.isSeparator with rfl | rfl
    · exact h.commaToPoint_eq
    · rw [hpattern rfl] at heuro
      cases heuro

end Separated

/-! ### Grouping -/

/-- The digits with a separator between groups of three, counted from the end. -/
def groupedBy (separator : Char) (digits : List Char) : List Char :=
  (groupThousands digits).map fun c => if c = '.' then separator else c

section

variable {separator : Char} {negative : Bool} {digits decimals : List Char}
  (hdigits : ∀ c ∈ digits, c.isDigit = true)

include hdigits

/-- Digits alone are separated digits. -/
lemma separated_digits (hseparator : separator = '.' ∨ separator = ',') (negative : Bool) :
    Separated separator negative digits ((signText negative).toList ++ digits) where
  isSeparator := hseparator
  isDigit := hdigits
  kept := filter_eq_of_notMem fun hmem => ne_separator_of_mem hdigits hseparator hmem rfl

variable (hne : digits ≠ [])

include hne

/-- Grouped digits are cut into groups of three, the first one of three at most. -/
lemma exists_groupedBy (separator : Char) : ∃ (lead : List Char) (groups : List (List Char)),
    groupedBy separator digits = lead ++ groups.flatMap (separator :: ·) ∧
      digits = lead ++ groups.flatten ∧ lead.length ≤ 3 ∧ ∀ group ∈ groups, group.length = 3 := by
  obtain ⟨lead, groups, htext, hcut, -, hlead, hgroups⟩ := exists_groupThousands digits hne
  refine ⟨lead, groups, ?_, hcut, hlead, hgroups⟩
  have hkept : ∀ cs : List Char, (∀ c ∈ cs, c ∈ digits) →
      cs.map (fun c => if c = '.' then separator else c) = cs := by
    intro cs hcs
    refine (List.map_congr_left fun c hc => if_neg ?_).trans (List.map_id cs)
    rintro rfl
    exact absurd (hdigits _ (hcs _ hc)) (by decide)
  rw [groupedBy, htext, List.map_append, hkept lead fun c hc => hcut ▸ List.mem_append_left _ hc,
    List.map_flatMap]
  refine congrArg (lead ++ ·) (List.flatMap_congr fun group hgroup => ?_)
  rw [List.map_cons, if_pos rfl, hkept group fun c hc =>
    hcut ▸ List.mem_append_right _ (List.mem_flatten.mpr ⟨group, hgroup, hc⟩)]

/-- Grouped digits are separated digits. -/
lemma separated_groupedBy (hseparator : separator = '.' ∨ separator = ',') (negative : Bool) :
    Separated separator negative digits
      ((signText negative).toList ++ groupedBy separator digits) := by
  obtain ⟨lead, groups, htext, rfl, -, -⟩ := exists_groupedBy hdigits hne separator
  have hkept : ∀ cs : List Char, (∀ c ∈ cs, c ∈ (signText negative).toList ++
      (lead ++ groups.flatten)) → cs.filter (· != separator) = cs := fun cs hcs =>
    filter_eq_of_notMem fun hmem => ne_separator_of_mem hdigits hseparator (hcs _ hmem) rfl
  have hgroups : (groups.flatMap (separator :: ·)).filter (· != separator) = groups.flatten := by
    rw [List.filter_flatMap, List.flatten_eq_flatMap]
    refine List.flatMap_congr fun group hgroup => ?_
    rw [List.filter_cons_of_neg (by simp), id]
    refine hkept group fun c hc => ?_
    simp only [List.mem_append, List.mem_flatten]
    exact .inr (.inr ⟨group, hgroup, hc⟩)
  refine ⟨hseparator, hdigits, ?_⟩
  rw [htext, List.filter_append, List.filter_append, hgroups,
    hkept _ fun c hc => List.mem_append_left _ hc,
    hkept lead fun c hc => List.mem_append_right _ (List.mem_append_left _ hc)]

/-- Behind the last separator of grouped digits there are three. -/
lemma length_of_splitAtLast?_groupedBy (hseparator : separator = '.' ∨ separator = ',')
    {before after : List Char}
    (h : splitAtLast? separator ((signText negative).toList ++ groupedBy separator digits) =
      some (before, after)) : after.length = 3 := by
  obtain ⟨lead, groups, htext, rfl, -, hgroups⟩ := exists_groupedBy hdigits hne separator
  have hother : ∀ cs : List Char, (∀ c ∈ cs, c ∈ (signText negative).toList ++
      (lead ++ groups.flatten)) → separator ∉ cs := fun cs hcs hmem =>
    ne_separator_of_mem hdigits hseparator (hcs _ hmem) rfl
  rcases List.eq_nil_or_concat groups with rfl | ⟨others, last, rfl⟩
  · have hnone := splitAtLast?_eq_none (hother _ fun c hc => hc)
    rw [List.flatten_nil, List.append_nil] at hnone
    rw [htext, List.flatMap_nil, List.append_nil, hnone] at h
    cases h
  · have hlast : separator ∉ last := hother last fun c hc => by simp [hc]
    have hcut : (signText negative).toList ++ groupedBy separator
        (lead ++ (others.concat last).flatten) =
          ((signText negative).toList ++ lead ++ others.flatMap (separator :: ·)) ++
            separator :: last := by
      rw [htext]
      simp
    rw [hcut, splitAtLast?_append hlast] at h
    obtain ⟨-, rfl⟩ := Prod.mk.inj (Option.some.inj h)
    exact hgroups last (by simp)

/-- Seven digits have two separators between their groups, of which one at most can be a comma of
the euro pattern. -/
lemma isEuro_groupedBy_comma (negative : Bool) (hseven : 7 ≤ digits.length) :
    isEuro ((signText negative).toList ++ groupedBy ',' digits) = false := by
  obtain ⟨lead, groups, htext, rfl, hlead, hgroups⟩ := exists_groupedBy hdigits hne ','
  match groups, hgroups with
  | [], _ =>
      simp only [List.flatten_nil, List.append_nil] at hseven
      omega
  | [group], hgroups =>
      simp only [List.flatten_singleton, List.length_append,
        hgroups group List.mem_cons_self] at hseven
      omega
  | first :: second :: rest, _ =>
      have hcut : (signText negative).toList ++ groupedBy ','
          (lead ++ (first :: second :: rest).flatten) =
            ((signText negative).toList ++ lead ++ ',' :: first) ++
              ',' :: (second ++ rest.flatMap (',' :: ·)) := by
        rw [htext]
        simp
      rw [hcut]
      exact isEuro_eq_false_of_comma (by simp) List.mem_cons_self (by decide +kernel)

end

/-! ### Reading a spelling -/

/-- The spellings of an amount with decimals: with points between groups of digits and a decimal
comma, the other way round, and without grouping. -/
def decimalSpellings (negative : Bool) (digits decimals : List Char) : List (List Char) :=
  let sign := (signText negative).toList
  [sign ++ groupedBy '.' digits ++ ',' :: decimals, sign ++ groupedBy ',' digits ++ '.' :: decimals,
    sign ++ digits ++ ',' :: decimals, sign ++ digits ++ '.' :: decimals]

/-- The spellings of a whole amount: with either separator between groups of digits, and without. -/
def wholeSpellings (negative : Bool) (digits : List Char) : List (List Char) :=
  let sign := (signText negative).toList
  [sign ++ groupedBy '.' digits, sign ++ groupedBy ',' digits, sign ++ digits]

section

variable {negative : Bool} {digits decimals : List Char}
  (hdigits : ∀ c ∈ digits, c.isDigit = true) (hne : digits ≠ [])

include hdigits hne

/-- **The spellings with decimals** spell the digits with a decimal point. -/
lemma spells_of_mem_decimalSpellings (hdecimals : ∀ c ∈ decimals, c.isDigit = true)
    (htwo : decimals.length = 2) {cs : List Char}
    (h : cs ∈ decimalSpellings negative digits decimals) :
    Spells cs ((signText negative).toList ++ (digits ++ '.' :: decimals)) := by
  have hpoints := separated_groupedBy hdigits hne (.inl rfl) negative
  have hcommas := separated_groupedBy hdigits hne (.inr rfl) negative
  simp only [decimalSpellings, List.mem_cons, List.not_mem_nil, or_false] at h
  rcases h with rfl | rfl | rfl | rfl
  · exact hpoints.spells_decimalComma hdecimals htwo
  · exact hcommas.spells_decimalPoint hdecimals htwo hne
  · exact (separated_digits hdigits (.inl rfl) negative).spells_decimalComma hdecimals htwo
  · exact (separated_digits hdigits (.inr rfl) negative).spells_decimalPoint hdecimals htwo hne

/-- **The whole spellings** of seven digits or more spell the digits. -/
lemma spells_of_mem_wholeSpellings (hseven : 7 ≤ digits.length) {cs : List Char}
    (h : cs ∈ wholeSpellings negative digits) :
    Spells cs ((signText negative).toList ++ digits) := by
  have hthree : ∀ {separator : Char}, separator = '.' ∨ separator = ',' → ∀ before after,
      splitAtLast? separator ((signText negative).toList ++ groupedBy separator digits) =
        some (before, after) → after.length ≠ 2 := by
    intro separator hseparator before after hsplit
    rw [length_of_splitAtLast?_groupedBy hdigits hne hseparator hsplit]
    decide
  simp only [wholeSpellings, List.mem_cons, List.not_mem_nil, or_false] at h
  rcases h with rfl | rfl | rfl
  · exact (separated_groupedBy hdigits hne (.inl rfl) negative).spells_whole (hthree (.inl rfl))
      fun h => absurd h (by decide)
  · exact (separated_groupedBy hdigits hne (.inr rfl) negative).spells_whole (hthree (.inr rfl))
      fun _ => isEuro_groupedBy_comma hdigits hne negative hseven
  · refine (separated_digits hdigits (.inl rfl) negative).spells_whole
      (fun before after hsplit => ?_)
      fun h => absurd h (by decide)
    have hnone : '.' ∉ (signText negative).toList ++ digits := fun hmem =>
      ne_separator_of_mem hdigits (.inl rfl) hmem rfl
    rw [splitAtLast?_eq_none hnone] at hsplit
    cases hsplit

end

/-- All texts that decorate a spelling are read as the same: the number nearest to a decimal, if
that is finite, and nothing otherwise. -/
structure ReadAlike (spellings : List (List Char)) (d : Decimal) : Prop where
  reads : ∀ spelling ∈ spellings, ∀ text : String, Decorated spelling text.toList →
    readLocale? text = if d.toBinary64.isFinite then some d.toBinary64 else none
  nearest : d.toBinary64.isFinite = true → IsNearest d.value d.toBinary64

/-- Spellings of a numeral are read as what it denotes. -/
lemma readAlike_of_spells {spellings : List (List Char)} {numeral : List Char} {d : Decimal}
    (hspells : ∀ spelling ∈ spellings, Spells spelling numeral)
    (hnumeral : Decimal.ofChars? numeral = some d) : ReadAlike spellings d where
  reads spelling hspelling text htext := by
    rw [readLocale?, (hspells spelling hspelling).readLocaleChars?_eq htext, readFinite?, hnumeral]
    rfl
  nearest := Decimal.isNearest_toBinary64

/-- The number that digits denote is finite if at most 308 of them stand in front of the point. -/
lemma isFinite_of_length_le (negative : Bool) {digits : List Char} {e : Nat}
    (hdigits : ∀ c ∈ digits, c.isDigit = true) (h : digits.length ≤ 308 + e) :
    (Decimal.toBinary64 ⟨negative, Decimal.digitsValue digits, -e⟩).isFinite = true := by
  have hlargest : 10 ^ 308 ≤ Binary64.largestUnits := by decide +kernel
  have hnumerator : Decimal.numerator ⟨negative, Decimal.digitsValue digits, -e⟩ =
      Decimal.digitsValue digits := by
    simp [Decimal.numerator]
  have hdenominator : Decimal.denominator ⟨negative, Decimal.digitsValue digits, -e⟩ = 10 ^ e := by
    simp [Decimal.denominator]
  rw [Decimal.toBinary64_eq_ofRatio, hnumerator, hdenominator, Decimal.digitsValue_eq]
  refine Binary64.isFinite_ofRatio negative (Nat.pow_pos (by decide)) ?_
  calc Nat.ofDigitChars 10 digits 0 ≤ 10 ^ digits.length := (Decimal.ofDigitChars_lt hdigits).le
    _ ≤ 10 ^ (308 + e) := Nat.pow_le_pow_right (by decide) h
    _ = 10 ^ 308 * 10 ^ e := pow_add _ _ _
    _ ≤ Binary64.largestUnits * 10 ^ e := Nat.mul_le_mul_right _ hlargest

/-- **All spellings of one amount read the same.**  With a minus or without, digits and two decimals
in any spelling, with blanks and currency signs put in anywhere, are read as the number nearest to
what they denote; and so are the spellings of seven digits or more without decimals.  The number is
finite if there are at most 308 digits. -/
theorem readLocale?_spellings (negative : Bool) {digits decimals : List Char} (hne : digits ≠ [])
    (hdigits : ∀ c ∈ digits, c.isDigit = true) (hdecimals : ∀ c ∈ decimals, c.isDigit = true)
    (htwo : decimals.length = 2) :
    let amount : Decimal := ⟨negative, Decimal.digitsValue (digits ++ decimals), -2⟩
    let whole : Decimal := ⟨negative, Decimal.digitsValue digits, 0⟩
    ReadAlike (decimalSpellings negative digits decimals) amount ∧
      (7 ≤ digits.length → ReadAlike (wholeSpellings negative digits) whole) ∧
      (digits.length ≤ 308 →
        amount.toBinary64.isFinite = true ∧ whole.toBinary64.isFinite = true) := by
  intro amount whole
  have hall : ∀ c ∈ digits ++ decimals, c.isDigit = true := fun c hc =>
    (List.mem_append.mp hc).elim (hdigits c) (hdecimals c)
  refine ⟨?_, fun hseven => ?_, fun hfinite => ⟨?_, ?_⟩⟩
  · refine readAlike_of_spells
      (fun cs => spells_of_mem_decimalSpellings hdigits hne hdecimals htwo) ?_
    have hread := Decimal.ofChars?_positional negative hne hall
    rw [Decimal.behindPoint_of_ne_nil (List.ne_nil_of_length_eq_add_one htwo), htwo] at hread
    exact hread
  · refine readAlike_of_spells (fun cs => spells_of_mem_wholeSpellings hdigits hne hseven) ?_
    have hwhole : ∀ c ∈ digits ++ [], c.isDigit = true := by simpa using hdigits
    have hread := Decimal.ofChars?_positional negative hne hwhole
    rw [Decimal.behindPoint, List.append_nil] at hread
    exact hread
  · refine isFinite_of_length_le negative (e := 2) hall ?_
    rw [List.length_append, htwo]
    omega
  · exact isFinite_of_length_le negative (e := 0) hdigits hfinite

/-- Spellings of one negative amount, with a currency sign and blanks, are read as one number. -/
theorem readLocale?_spellings_of_million :
    let digits := ['1', '2', '3', '4', '5', '6', '7']
    let amount : Decimal := ⟨true, 123456789, -2⟩
    digits ≠ [] ∧ (∀ c ∈ digits, c.isDigit = true) ∧ (∀ c ∈ ['8', '9'], c.isDigit = true) ∧
      IsNearest amount.value amount.toBinary64 ∧
      readLocale? "-1.234.567,89 €" = some amount.toBinary64 ∧
      readLocale? "$ -1,234,567.89" = some amount.toBinary64 ∧
      readLocale? "- 1234567,89" = some amount.toBinary64 ∧
      readLocale? "-1 234 567.89£" = some amount.toBinary64 := by
  intro digits amount
  have hne : digits ≠ [] := by decide
  have hdigits : ∀ c ∈ digits, c.isDigit = true := List.all_eq_true.mp (by decide)
  have hdecimals : ∀ c ∈ ['8', '9'], c.isDigit = true := List.all_eq_true.mp (by decide)
  obtain ⟨halike, -, hfinite⟩ := readLocale?_spellings true hne hdigits hdecimals rfl
  have hamount : (⟨true, Decimal.digitsValue (digits ++ ['8', '9']), -2⟩ : Decimal) = amount := by
    decide
  rw [hamount] at halike hfinite
  have hread : ∀ text : String, stripDecorations text.toList ∈
      decimalSpellings true digits ['8', '9'] → readLocale? text = some amount.toBinary64 := by
    intro text hspelling
    have hplain : ∀ c ∈ stripDecorations text.toList, IsPlain c :=
      (spells_of_mem_decimalSpellings hdigits hne hdecimals rfl hspelling).plain
    rw [halike.reads _ hspelling text ((decorated_iff hplain).mpr rfl),
      if_pos (hfinite (by decide)).1]
  exact ⟨hne, hdigits, hdecimals, halike.nearest (hfinite (by decide)).1, hread _ (by decide),
    hread _ (by decide), hread _ (by decide), hread _ (by decide)⟩

end TableExplorer.Amount
