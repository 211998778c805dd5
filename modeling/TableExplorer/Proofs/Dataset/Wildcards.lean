import Mathlib
import TableExplorer.Dataset.Pattern
import TableExplorer.Identifier

/-!
Escaped texts in patterns.  A text whose wildcards and backslashes are escaped is read as literal
items only, whatever follows it; so the pattern of such a text between two `%` finds exactly the
texts that contain it, up to the case of ASCII letters.

* `someSuffix_iff`: what `%` may swallow is any beginning of the text.
* `matchesChars_literals`: a run of literals takes as many characters off the text, each the same
  letter.
* `ofText?_escapePattern_append`: **escaping**, an escaped text is a run of literals.
* `accepts_escaped_iff`: **containment**, stated on the part of the text that matches.
-/

namespace TableExplorer.Pattern

/-! ### Matching -/

/-- Some suffix is accepted: what comes before it is any beginning of the text. -/
lemma someSuffix_iff {accept : List Char → Bool} {cs : List Char} :
    someSuffix accept cs = true ↔ ∃ suffix, suffix <:+ cs ∧ accept suffix = true := by
  induction cs with
  | nil => simp [someSuffix]
  | cons c rest ih =>
      rw [someSuffix, Bool.or_eq_true, ih]
      constructor
      · rintro (h | ⟨suffix, hs, h⟩)
        · exact ⟨c :: rest, List.suffix_refl _, h⟩
        · exact ⟨suffix, hs.trans (List.suffix_cons c rest), h⟩
      · rintro ⟨suffix, hs, h⟩
        rcases List.suffix_cons_iff.mp hs with rfl | hs
        · exact Or.inl h
        · exact Or.inr ⟨suffix, hs, h⟩

/-- `%` in front of a pattern leaves to it any suffix of the text. -/
lemma matchesChars_anyText {items : Pattern} {cs : List Char} :
    matchesChars (.anyText :: items) cs = true ↔
      ∃ suffix, suffix <:+ cs ∧ matchesChars items suffix = true := by
  rw [matchesChars, someSuffix_iff]

/-- `%` alone matches every text. -/
@[simp] lemma matchesChars_anyText_nil (cs : List Char) : matchesChars [.anyText] cs = true :=
  matchesChars_anyText.mpr ⟨[], List.nil_suffix, rfl⟩

/-- Literals in front of a pattern match the beginning of a text letter by letter, and leave the
rest to the pattern. -/
lemma matchesChars_literals {letters : List Char} {items : Pattern} {cs : List Char} :
    matchesChars (letters.map .literal ++ items) cs = true ↔
      ∃ part rest, cs = part ++ rest ∧
        List.Forall₂ (fun c d => sameLetter c d = true) letters part ∧
        matchesChars items rest = true := by
  induction letters generalizing cs with
  | nil => simp
  | cons c letters ih =>
      cases cs with
      | nil => simp [matchesChars]
      | cons d cs =>
          rw [List.map_cons, List.cons_append, matchesChars, Bool.and_eq_true, ih]
          constructor
          · rintro ⟨hcd, part, rest, rfl, hpart, hrest⟩
            exact ⟨d :: part, rest, rfl, List.Forall₂.cons hcd hpart, hrest⟩
          · rintro ⟨part, rest, heq, hpart, hrest⟩
            cases hpart with
            | cons hcd hpart =>
                rw [List.cons_append, List.cons.injEq] at heq
                obtain ⟨rfl, rfl⟩ := heq
                exact ⟨hcd, _, rest, rfl, hpart, hrest⟩

/-- Texts without capital ASCII letters agree letter by letter only if they are equal. -/
lemma forall₂_sameLetter_iff {as bs : List Char} (ha : ∀ c ∈ as, c.toLower = c)
    (hb : ∀ c ∈ bs, c.toLower = c) :
    List.Forall₂ (fun c d => sameLetter c d = true) as bs ↔ as = bs := by
  rw [← List.forall₂_eq_eq_eq]
  induction as generalizing bs with
  | nil => cases bs <;> simp
  | cons a as ih =>
      cases bs with
      | nil => simp
      | cons b bs =>
          rw [List.forall₂_cons, List.forall₂_cons,
            ih (fun c hc => ha c (by simp [hc])) (fun c hc => hb c (by simp [hc])), sameLetter,
            ha a (by simp), hb b (by simp), beq_iff_eq]

/-! ### Escaping -/

/-- The items of a pattern that begins with an escaped character. -/
lemma ofText?_escaped (c : Char) (rest : List Char) :
    ofText? (some '\\') ('\\' :: c :: rest) = (.literal c :: ·) <$> ofText? (some '\\') rest := by
  rw [ofText?, if_pos rfl]

/-- The items of a pattern that begins with an ordinary character. -/
lemma ofText?_ordinary {c : Char} (hc : ¬(c = '%' ∨ c = '_' ∨ c = '\\')) (rest : List Char) :
    ofText? (some '\\') (c :: rest) = (.literal c :: ·) <$> ofText? (some '\\') rest := by
  have hne : ¬('\\' = c) := fun h => hc (Or.inr (Or.inr h.symm))
  have hp : ¬(c = '%') := fun h => hc (Or.inl h)
  have hu : ¬(c = '_') := fun h => hc (Or.inr (Or.inl h))
  cases rest <;> simp [ofText?, hne, hp, hu]

/-- The items of a pattern that begins with `%`. -/
lemma ofText?_percent (rest : List Char) :
    ofText? (some '\\') ('%' :: rest) = (.anyText :: ·) <$> ofText? (some '\\') rest := by
  cases rest with
  | nil => rfl
  | cons d rest => rw [ofText?, if_neg (by decide), if_pos rfl]

/-- **Escaping**: an escaped text is read as literals, one for each of its characters. -/
lemma ofText?_escapePattern_append {rest : List Char} {items : Pattern}
    (h : ofText? (some '\\') rest = some items) (letters : List Char) :
    ofText? (some '\\') (escapePattern letters ++ rest) =
      some (letters.map .literal ++ items) := by
  induction letters with
  | nil => exact h
  | cons c letters ih =>
      rw [escapePattern, List.flatMap_cons, ← escapePattern, List.append_assoc]
      split
      · rw [List.cons_append, List.cons_append, List.nil_append, ofText?_escaped, ih]
        rfl
      · rename_i hc
        rw [List.cons_append, List.nil_append, ofText?_ordinary hc, ih]
        rfl

/-- **Containment**: the pattern of an escaped text between two `%` accepts the texts of which some
part agrees with the text letter by letter. -/
lemma accepts_escaped_iff (letters : List Char) (text : String) :
    accepts (some '\\') ("%" ++ String.ofList (escapePattern letters) ++ "%") text = true ↔
      ∃ part, part <:+: beforeNul text.toList ∧
        List.Forall₂ (fun c d => sameLetter c d = true) letters part := by
  have hitems : ofText? (some '\\') ("%" ++ String.ofList (escapePattern letters) ++ "%").toList =
      some (.anyText :: (letters.map .literal ++ [.anyText])) := by
    have hpercent : ofText? (some '\\') ['%'] = some [.anyText] := rfl
    have htext : ("%" ++ String.ofList (escapePattern letters) ++ "%").toList =
        '%' :: (escapePattern letters ++ ['%']) := by simp
    rw [htext, ofText?_percent, ofText?_escapePattern_append hpercent]
    rfl
  rw [accepts, hitems]
  dsimp only
  rw [matchesChars_anyText]
  constructor
  · rintro ⟨suffix, ⟨front, hfront⟩, hmatch⟩
    obtain ⟨part, rest, rfl, hpart, -⟩ := matchesChars_literals.mp hmatch
    exact ⟨part, ⟨front, rest, by rw [List.append_assoc, hfront]⟩, hpart⟩
  · rintro ⟨part, ⟨front, rest, htext⟩, hpart⟩
    exact ⟨part ++ rest, ⟨front, by rw [← List.append_assoc, htext]⟩,
      matchesChars_literals.mpr ⟨part, rest, rfl, hpart, matchesChars_anyText_nil rest⟩⟩

end TableExplorer.Pattern
