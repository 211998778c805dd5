import Mathlib
import TableExplorer.Text.Lowercase

/-!
Endings in lower case.  The lower case of a text ends in the lower case of its ending, but for one
exception: a capital sigma at the end of a word becomes the final form, and whether there is a word
that it ends may depend on what comes before the ending.

* `EndsWord`: the first letter of an ending is a capital sigma that ends a word begun before;
  `lowercaseFrom_eq_iff`: **the lower case of an ending is its own** unless this is so.
* `isSuffix_lowercase_append_iff`: a text in lower case ends in the lower case of its ending unless
  this is so.
-/

namespace TableExplorer.Text

variable {before other cs : List Char}

/-- The first letter of an ending is a capital sigma that ends a word begun before. -/
def EndsWord (before cs : List Char) : Prop :=
  startsCased before = true ∧
    ∃ rest, cs.dropWhile isCaseIgnorable = 'Σ' :: rest ∧ startsCased rest = false

/-- The lower case of a character, with the characters before it reversed. -/
def lowerAmong (before : List Char) (c : Char) (rest : List Char) : List Char :=
  if c = 'Σ' then if startsCased before && !startsCased rest then ['ς'] else ['σ'] else lowerChar c

/-- The lower case of a text, its first character first. -/
lemma lowercaseFrom_cons (before : List Char) (c : Char) (rest : List Char) :
    lowercaseFrom before (c :: rest) =
      lowerAmong before c rest ++ lowercaseFrom (c :: before) rest := rfl

/-- What comes before a capital sigma does not matter for the number of characters. -/
lemma length_lowerAmong (before other : List Char) (c : Char) (rest : List Char) :
    (lowerAmong before c rest).length = (lowerAmong other c rest).length := by
  unfold lowerAmong
  split_ifs <;> rfl

/-- What comes before a text does not matter for the number of characters of its lower case. -/
lemma length_lowercaseFrom (before other cs : List Char) :
    (lowercaseFrom before cs).length = (lowercaseFrom other cs).length := by
  induction cs generalizing before other with
  | nil => rfl
  | cons c rest ih =>
      rw [lowercaseFrom_cons, lowercaseFrom_cons, List.length_append, List.length_append,
        length_lowerAmong before other, ih (c :: before) (c :: other)]

/-- The lower case of a text ends in that of its ending behind what comes before. -/
lemma lowercaseFrom_append (before front cs : List Char) :
    ∃ lower, lowercaseFrom before (front ++ cs) =
      lower ++ lowercaseFrom (front.reverse ++ before) cs := by
  induction front generalizing before with
  | nil => exact ⟨[], rfl⟩
  | cons c front ih =>
      obtain ⟨lower, h⟩ := ih (c :: before)
      refine ⟨lowerAmong before c (front ++ cs) ++ lower, ?_⟩
      rw [List.cons_append, lowercaseFrom_cons, h, List.append_assoc, List.reverse_cons,
        List.append_assoc, List.singleton_append]

/-- Whether a word has begun is told by the last character that is not ignored. -/
lemma startsCased_cons (c : Char) (before : List Char) :
    startsCased (c :: before) = if isCaseIgnorable c then startsCased before else isCased c := by
  by_cases hc : isCaseIgnorable c = true
  · rw [if_pos hc, startsCased, List.dropWhile_cons_of_pos hc, ← startsCased]
  · rw [if_neg hc, startsCased, List.dropWhile_cons_of_neg hc]

/-- Of what comes before a text, only whether a word has begun matters. -/
lemma lowercaseFrom_congr (h : startsCased before = startsCased other) :
    lowercaseFrom before cs = lowercaseFrom other cs := by
  induction cs generalizing before other with
  | nil => rfl
  | cons c rest ih =>
      have hnext : startsCased (c :: before) = startsCased (c :: other) := by
        rw [startsCased_cons, startsCased_cons, h]
      rw [lowercaseFrom_cons, lowercaseFrom_cons, lowerAmong, h, ih hnext, ← lowerAmong]

/-- **The lower case of an ending is its own** unless its first letter is a capital sigma that ends
a word begun before. -/
lemma lowercaseFrom_eq_iff (hother : startsCased other = false) :
    lowercaseFrom before cs = lowercaseFrom other cs ↔ ¬EndsWord before cs := by
  cases hbefore : startsCased before with
  | false =>
      refine iff_of_true (lowercaseFrom_congr (hbefore.trans hother.symm)) fun h => ?_
      exact absurd h.1 (by rw [hbefore]; decide)
  | true =>
      rw [EndsWord, hbefore, eq_self_iff_true, true_and]
      induction cs generalizing before other with
      | nil => simp [lowercaseFrom]
      | cons c rest ih =>
          rw [lowercaseFrom_cons, lowercaseFrom_cons, List.dropWhile_cons]
          by_cases hc : isCaseIgnorable c = true
          · -- an ignored character is no sigma, and leaves to the others what came before
            have hne : c ≠ 'Σ' := by
              rintro rfl
              exact absurd hc (by decide +kernel)
            rw [lowerAmong, lowerAmong, if_neg hne, if_neg hne, List.append_cancel_left_eq,
              if_pos hc]
            exact ih (by rw [startsCased_cons, if_pos hc, hother])
              (by rw [startsCased_cons, if_pos hc, hbefore])
          · have hrest : lowercaseFrom (c :: before) rest = lowercaseFrom (c :: other) rest := by
              refine lowercaseFrom_congr ?_
              rw [startsCased_cons, startsCased_cons, if_neg hc, if_neg hc]
            rw [hrest, List.append_cancel_right_eq, if_neg hc, lowerAmong, lowerAmong, hbefore,
              hother]
            by_cases hsigma : c = 'Σ'
            · subst hsigma
              cases hword : startsCased rest <;> simp [hword]
            · simp [hsigma]

/-- **A text in lower case ends in the lower case of its ending** unless the first letter of the
ending is a capital sigma that ends a word begun before. -/
lemma isSuffix_lowercase_append_iff (front part : String) :
    (lowercase part).toList <:+ (lowercase (front ++ part)).toList ↔
      ¬EndsWord front.toList.reverse part.toList := by
  obtain ⟨lower, happend⟩ := lowercaseFrom_append [] front.toList part.toList
  have hempty : startsCased [] = false := rfl
  rw [lowercase, lowercase, String.toList_ofList, String.toList_ofList, String.toList_append,
    happend, List.append_nil, ← lowercaseFrom_eq_iff hempty]
  constructor
  · rintro ⟨others, h⟩
    exact (List.append_inj_right' h (length_lowercaseFrom _ _ _)).symm
  · intro h
    exact ⟨lower, by rw [h]⟩

end TableExplorer.Text
