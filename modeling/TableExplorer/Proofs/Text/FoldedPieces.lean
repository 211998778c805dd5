import TableExplorer.Proofs.Text.Folding
import TableExplorer.Text.Blank

/-!
A text is folded piece by piece.  Folding orders the marks of each letter, which moves characters
past each other, but all that it moves are marks, and marks are dropped right after; so every
character is folded for itself, and a piece of a text is a piece of the folded text.

* `lastAtMost_eq_getElem?`: a look-up in an ascending table finds the entry that it is meant to
  find; `inRuns_of_mem`: a number in one of several ascending runs is found there.
* `isMark_of_combiningClass_ne_zero`: **what is moved is a mark**.
* `foldChars_eq_flatMap`: **every character is folded for itself**.
* `foldChars_isInfix`: **a piece of a text is found in the folded text**.
-/

namespace TableExplorer.Text

/-! ### Look-up in ascending tables -/

section

variable {α : Type} {key : α → Nat} {table : Array α} {n : Nat} {entry : α}

/-- The search between two places finds the last entry whose key is at most the number, if the keys
up to some place between them are and those from there on are not. -/
lemma lastAtMostBetween_eq {place : Nat}
    (hbelow : ∀ (i : Nat) (h : i < table.size), i < place → key (table[i]) ≤ n)
    (habove : ∀ (i : Nat) (h : i < table.size), place ≤ i → n < key (table[i])) :
    ∀ {fuel low high : Nat}, low ≤ place → place ≤ high → high ≤ table.size → high - low < fuel →
      lastAtMostBetween key table n fuel low high =
        if place = 0 then none else table[place - 1]? := by
  intro fuel
  induction fuel with
  | zero => exact fun _ _ _ hfuel => absurd hfuel (Nat.not_lt_zero _)
  | succ fuel ih =>
      intro low high hlow hhigh hsize hfuel
      rw [lastAtMostBetween]
      split
      · rename_i hle
        rw [show low = place by omega]
      · have hmiddle : (low + high) / 2 < table.size := by omega
        simp only [Array.getElem?_eq_getElem hmiddle]
        split
        · rename_i hkey
          refine ih ?_ hhigh hsize (by omega)
          by_contra hlt
          exact absurd (habove _ hmiddle (by omega)) (Nat.not_lt.mpr hkey)
        · rename_i hkey
          refine ih hlow ?_ (by omega) (by omega)
          by_contra hlt
          exact hkey (hbelow _ hmiddle (by omega))

/-- The key of the entry found between two places is at most the number, if that of the entry in
front of them is. -/
lemma key_le_of_lastAtMostBetween :
    ∀ {fuel low high : Nat}, (∀ first, low ≠ 0 → table[low - 1]? = some first → key first ≤ n) →
      lastAtMostBetween key table n fuel low high = some entry → key entry ≤ n := by
  intro fuel
  induction fuel with
  | zero => exact fun _ h => (nomatch h)
  | succ fuel ih =>
      intro low high hlow h
      rw [lastAtMostBetween] at h
      split at h
      · split at h
        · cases h
        · rename_i hne
          exact hlow entry hne h
      · dsimp only at h
        split at h
        · rename_i middle hmiddle
          split at h
          · rename_i hkey
            refine ih (fun first _ hfirst => ?_) h
            rw [Nat.add_sub_cancel, hmiddle] at hfirst
            exact Option.some.inj hfirst ▸ hkey
          · exact ih hlow h
        · cases h

/-- The key of the entry found in a table is at most the number. -/
lemma key_le_of_lastAtMost (h : lastAtMost key table n = some entry) : key entry ≤ n :=
  key_le_of_lastAtMostBetween (fun _ hne => absurd rfl hne) h

end

/-! ### Runs -/

/-- A run that comes before another one. -/
def Precedes (run next : Nat × Nat) : Prop := run.1 ≤ run.2 ∧ run.2 < next.1

instance : DecidableRel Precedes := fun run next =>
  inferInstanceAs (Decidable (run.1 ≤ run.2 ∧ run.2 < next.1))

instance : IsTrans (Nat × Nat) Precedes :=
  ⟨fun _ _ _ h h' => ⟨h.1, h.2.trans_le (h'.1.trans h'.2.le)⟩⟩

/-- A number in one of several ascending runs is found there. -/
lemma inRuns_of_mem {runs : Array (Nat × Nat)} {n : Nat} {run : Nat × Nat}
    (hruns : runs.toList.Pairwise Precedes) (hrun : run ∈ runs) (hfirst : run.1 ≤ n)
    (hlast : n ≤ run.2) : inRuns runs n = true := by
  obtain ⟨place, hplace, rfl⟩ := Array.getElem_of_mem hrun
  have horder : ∀ (i j : Nat) (hi : i < runs.size) (hj : j < runs.size), i < j →
      Precedes (runs[i]) (runs[j]) :=
    fun i j hi hj hlt => List.pairwise_iff_getElem.mp hruns i j hi hj hlt
  have hfound : lastAtMost (·.1) runs n = runs[place]? := by
    refine (lastAtMostBetween_eq (fun i hi hlt => ?_)
      (fun i hi hle => ?_) (Nat.zero_le _) hplace le_rfl (Nat.lt_succ_self _)).trans ?_
    · rcases Nat.lt_succ_iff_lt_or_eq.mp hlt with hbefore | rfl
      · have := horder i place hi hplace hbefore
        exact (this.1.trans this.2.le).trans hfirst
      · exact hfirst
    · exact hlast.trans_lt (horder place i hplace hi hle).2
    · rw [if_neg (Nat.succ_ne_zero _), Nat.succ_sub_one]
  rw [inRuns, hfound, Array.getElem?_eq_getElem hplace]
  exact decide_eq_true hlast

/-- Each of some runs lies in one of others, both being listed in the same order. -/
def coversAll : List (Nat × Nat) → List (Nat × Nat) → Bool
  | [], runs => runs.isEmpty
  | wide :: rest, runs =>
    coversAll rest (runs.dropWhile fun run => wide.1 ≤ run.1 && run.2 ≤ wide.2)

/-- A run that is covered lies in one that covers it. -/
lemma exists_of_coversAll {wides : List (Nat × Nat)} : ∀ {runs : List (Nat × Nat)},
    coversAll wides runs = true →
      ∀ run ∈ runs, ∃ wide ∈ wides, wide.1 ≤ run.1 ∧ run.2 ≤ wide.2 := by
  induction wides with
  | nil =>
      intro runs h run hrun
      rw [List.isEmpty_iff.mp h] at hrun
      cases hrun
  | cons wide rest ih =>
      intro runs h run hrun
      rw [← List.takeWhile_append_dropWhile
        (p := fun run : Nat × Nat => wide.1 ≤ run.1 && run.2 ≤ wide.2) (l := runs)] at hrun
      rcases List.mem_append.mp hrun with hin | hout
      · have hwide := List.mem_takeWhile_imp hin
        rw [Bool.and_eq_true, decide_eq_true_iff, decide_eq_true_iff] at hwide
        exact ⟨wide, List.mem_cons_self, hwide⟩
      · obtain ⟨other, hother, hwide⟩ := ih h run hout
        exact ⟨other, List.mem_cons_of_mem _ hother, hwide⟩

/-! ### Marks -/

/-- The runs of marks ascend. -/
lemma markRuns_pairwise : markRuns.toList.Pairwise Precedes := by
  have hchain : markRuns.toList.IsChain Precedes := by decide +kernel
  exact List.isChain_iff_pairwise.mp hchain

/-- The runs of a combining class other than zero are runs of marks. -/
lemma exists_markRun {entry : Nat × Nat × Nat} (h : entry ∈ combiningClassRuns) :
    ∃ run ∈ markRuns, run.1 ≤ entry.1 ∧ entry.2.1 ≤ run.2 := by
  have hall : coversAll markRuns.toList
      (combiningClassRuns.toList.map fun e => (e.1, e.2.1)) = true := by decide +kernel
  obtain ⟨run, hrun, hcovers⟩ := exists_of_coversAll hall (entry.1, entry.2.1)
    (List.mem_map.mpr ⟨entry, h.val, rfl⟩)
  exact ⟨run, ⟨hrun⟩, hcovers⟩

/-- A character of a combining class other than zero is in one of their runs. -/
lemma exists_classRun {c : Char} (h : combiningClass c ≠ 0) :
    ∃ entry ∈ combiningClassRuns, entry.1 ≤ c.toNat ∧ c.toNat ≤ entry.2.1 := by
  delta combiningClass at h
  split at h
  · rename_i first last value hfound
    split at h
    · rename_i hlast
      exact ⟨_, lastAtMost_mem hfound, key_le_of_lastAtMost hfound, hlast⟩
    · exact absurd rfl h
  · exact absurd rfl h

/-- **What is moved is a mark**: a character of a combining class other than zero. -/
lemma isMark_of_combiningClass_ne_zero {c : Char} (h : combiningClass c ≠ 0) : isMark c = true := by
  obtain ⟨entry, hentry, hfirst, hlast⟩ := exists_classRun h
  obtain ⟨run, hrun, hbefore, hbehind⟩ := exists_markRun hentry
  exact inRuns_of_mem markRuns_pairwise hrun (hbefore.trans hfirst) (hlast.trans hbehind)

/-! ### Pieces of folded texts -/

/-- What is left of a text without its marks. -/
def dropMarks (cs : List Char) : List Char := cs.filter fun c => !isMark c

/-- A mark that is put among others does not matter when the marks are dropped. -/
lemma dropMarks_insertByClass {c : Char} (hc : isMark c = true) (cs : List Char) :
    dropMarks (insertByClass c cs) = dropMarks cs := by
  have hdrop : ∀ rest : List Char, dropMarks (c :: rest) = dropMarks rest := fun rest =>
    List.filter_cons_of_neg (by rw [hc]; decide)
  induction cs with
  | nil => exact hdrop []
  | cons d rest ih =>
      rw [insertByClass]
      split
      · rw [dropMarks, dropMarks, List.filter_cons, List.filter_cons]
        exact if_congr Iff.rfl (congrArg (d :: ·) ih) ih
      · exact hdrop _

/-- The order of the marks does not matter when they are dropped. -/
lemma dropMarks_orderMarks (cs : List Char) : dropMarks (orderMarks cs) = dropMarks cs := by
  induction cs with
  | nil => rfl
  | cons c rest ih =>
      rw [orderMarks]
      split
      · rw [dropMarks, dropMarks, List.filter_cons, List.filter_cons]
        exact if_congr Iff.rfl (congrArg (c :: ·) ih) ih
      · rename_i hclass
        have hmark := isMark_of_combiningClass_ne_zero hclass
        rw [dropMarks_insertByClass hmark, ih]
        exact (List.filter_cons_of_neg (by rw [hmark]; decide)).symm

/-- One character folded. -/
def foldChar (c : Char) : List Char := (dropMarks (decomposeChar c)).flatMap lowerChar

/-- **Every character is folded for itself.** -/
theorem foldChars_eq_flatMap (cs : List Char) : foldChars cs = cs.flatMap foldChar := by
  have hmarks : (decompose cs).filter (fun c => !isMark c) =
      cs.flatMap fun c => dropMarks (decomposeChar c) := by
    rw [decompose]
    exact (dropMarks_orderMarks _).trans List.filter_flatMap
  rw [foldChars, hmarks, List.flatMap_assoc]
  rfl

/-- **A piece of a text is found in the folded text.** -/
theorem foldChars_isInfix {piece cs : List Char} (h : piece <:+: cs) :
    foldChars piece <:+: foldChars cs := by
  obtain ⟨before, after, rfl⟩ := h
  simp only [foldChars_eq_flatMap, List.flatMap_append]
  exact List.infix_append _ _ _

/-- A property of the characters below a code point, checked one by one. -/
lemma forall_char_of_lt {P : Char → Prop} {bound : Nat} (h : ∀ n < bound, P (Char.ofNat n))
    {c : Char} (hc : c.toNat < bound) : P c := by
  have hchar := h c.toNat hc
  rwa [Char.ofNat_toNat] at hchar

/-- An ASCII character is no mark. -/
lemma isMark_of_lt {c : Char} (h : c.toNat < 0x80) : isMark c = false := by
  have hascii : ∀ n < 0x80, isMark (Char.ofNat n) = false := by decide +kernel
  exact forall_char_of_lt (P := fun c => isMark c = false) hascii h

/-- An ASCII character is folded to its lower case. -/
lemma foldChar_of_lt {c : Char} (h : c.toNat < 0x80) : foldChar c = [c.toLower] := by
  rw [foldChar, decomposeChar, if_pos h, dropMarks,
    List.filter_cons_of_pos (by rw [isMark_of_lt h]; decide), List.filter_nil,
    List.flatMap_singleton, lowerChar, if_pos h]

/-- A text of ASCII characters without capital letters is its own folded text. -/
lemma foldChars_eq_self {cs : List Char} (h : ∀ c ∈ cs, c.toNat < 0x80 ∧ c.toLower = c) :
    foldChars cs = cs := by
  have hfold : ∀ c ∈ cs, foldChar c = [c] := by
    intro c hc
    rw [foldChar_of_lt (h c hc).1, (h c hc).2]
  rw [foldChars_eq_flatMap, List.flatMap_congr hfold, List.flatMap_singleton']

/-- What is left of a text when its ends are trimmed is a piece of it. -/
lemma trim_isInfix (s : String) : (trim s).toList <:+: s.toList := by
  have hends : trimEnds isBlank s.toList <:+: s.toList := by
    rw [trimEnds, ← List.reverse_infix, List.reverse_reverse]
    refine (List.dropWhile_suffix _).isInfix.trans ?_
    exact List.reverse_infix.mpr (List.dropWhile_suffix _).isInfix
  rwa [trim, String.toList_ofList]

/-- **A piece of a text is found** by a search for it. -/
theorem fold_trim_isInfix {query text : String} (h : query.toList <:+: text.toList) :
    (fold (trim query)).toList <:+: (fold text).toList := by
  rw [fold, fold, String.toList_ofList, String.toList_ofList]
  exact foldChars_isInfix ((trim_isInfix query).trans h)

end TableExplorer.Text
