import TableExplorer.Proofs.Text.FoldedPieces

/-!
Folded texts are in a normal form.  What folding leaves of a character are characters that it does
not change: they stand for themselves, are no marks, and are their own lower case.  For the
characters of the tables this is checked entry by entry; the sets of numbers that the check asks for
are held as the binary digits of one number each, so that a number is looked up in one step.

* `Text.digitsOf`, `Text.testBit_digitsOf`: the numbers in some runs as binary digits.
* `Text.lastAtMost_of_mem`: a key of an ascending table is found with its entry.
* `Text.not_isComposed_of_mem_decompositionOf`: **a decomposition is not decomposed further**.
* `Text.isPlain_of_mem_lowerOf`: **the lower case of a character that is neither composed nor a mark
  is plain**.
* `Text.foldChar_eq_self`: **a folded character is folded to itself**.
* `Text.isNormalForm_fold`: **folding is compositional and gives normal forms**.
-/

namespace TableExplorer.Text

/-! ### Sets of numbers as binary digits -/

/-- The numbers that lie in one of the runs, as the places of binary digits. -/
def digitsOf (runs : List (Nat × Nat)) : Nat :=
  runs.foldr (fun run digits => digits ||| (2 ^ (run.2 + 1 - run.1) - 1) <<< run.1) 0

/-- There is a digit at the numbers that lie in one of the runs. -/
lemma testBit_digitsOf {runs : List (Nat × Nat)} {n : Nat} :
    (digitsOf runs).testBit n = true ↔ ∃ run ∈ runs, run.1 ≤ n ∧ n ≤ run.2 := by
  induction runs with
  | nil => simp [digitsOf]
  | cons run runs ih =>
      have hrun : ((2 ^ (run.2 + 1 - run.1) - 1) <<< run.1).testBit n = true ↔
          run.1 ≤ n ∧ n ≤ run.2 := by
        rw [Nat.testBit_shiftLeft, Nat.testBit_two_pow_sub_one, Bool.and_eq_true,
          decide_eq_true_iff, decide_eq_true_iff]
        omega
      rw [digitsOf, List.foldr_cons, ← digitsOf, Nat.testBit_or, Bool.or_eq_true, ih, hrun,
        List.exists_mem_cons_iff, or_comm]

/-! ### Composed characters -/

/-- The numbers of the listed composed characters. -/
def composedDigits : Nat := digitsOf (decompositions.toList.map fun entry => (entry.1, entry.1))

/-- The number is that of a composed character: a listed one or a Korean syllable. -/
def isComposed (n : Nat) : Bool :=
  composedDigits.testBit n || (syllableBase ≤ n && n < syllableBase + syllableCount)

/-- The listed composed characters are those of the entries. -/
lemma testBit_composedDigits {n : Nat} :
    composedDigits.testBit n = true ↔ ∃ entry ∈ decompositions, entry.1 = n := by
  rw [composedDigits, testBit_digitsOf]
  constructor
  · rintro ⟨run, hrun, hfirst, hlast⟩
    obtain ⟨entry, hentry, rfl⟩ := List.mem_map.mp hrun
    exact ⟨entry, Array.mem_toList_iff.mp hentry, le_antisymm hfirst hlast⟩
  · rintro ⟨entry, hentry, rfl⟩
    exact ⟨_, List.mem_map_of_mem (Array.mem_toList_iff.mpr hentry), le_rfl, le_rfl⟩

/-- A character that is not composed stands for itself. -/
lemma decompositionOf_eq_self {n : Nat} (h : isComposed n = false) : decompositionOf n = [n] := by
  rw [isComposed, Bool.or_eq_false_iff, ← Bool.not_eq_true, testBit_composedDigits] at h
  obtain ⟨hlisted, hsyllable⟩ := h
  have hrange : ¬(syllableBase ≤ n ∧ n < syllableBase + syllableCount) := by
    simpa using hsyllable
  rw [decompositionOf, if_neg hrange]
  split
  · rename_i composed parts hfound
    exact if_neg fun heq => hlisted ⟨_, lastAtMost_mem hfound, heq⟩
  · rfl

/-- The key of an entry of an ascending table is found with the entry. -/
lemma lastAtMost_of_mem {α : Type} {key : α → Nat} {table : Array α} {entry : α}
    (htable : table.toList.Pairwise fun a b => key a < key b) (hentry : entry ∈ table) :
    lastAtMost key table (key entry) = some entry := by
  obtain ⟨place, hplace, rfl⟩ := Array.getElem_of_mem hentry
  have horder : ∀ (i j : Nat) (hi : i < table.size) (hj : j < table.size), i < j →
      key table[i] < key table[j] :=
    fun i j hi hj hlt => List.pairwise_iff_getElem.mp htable i j hi hj hlt
  refine (lastAtMostBetween_eq (fun i hi hlt => ?_) (fun i hi hle => ?_) (Nat.zero_le _)
    hplace le_rfl (Nat.lt_succ_self _)).trans ?_
  · rcases Nat.lt_succ_iff_lt_or_eq.mp hlt with hbefore | rfl
    · exact (horder i place hi hplace hbefore).le
    · exact le_rfl
  · exact horder place i hplace hi hle
  · rw [if_neg (Nat.succ_ne_zero _), Nat.succ_sub_one, Array.getElem?_eq_getElem hplace]

/-- Each number is less than the next one. -/
def ascends : List Nat → Bool
  | a :: b :: rest => Nat.blt a b && ascends (b :: rest)
  | _ => true

/-- Numbers of which each is less than the next one are in order. -/
lemma pairwise_of_ascends : ∀ {ns : List Nat}, ascends ns = true → ns.Pairwise (· < ·)
  | [], _ => .nil
  | [a], _ => List.pairwise_singleton _ a
  | a :: b :: rest, h => by
      rw [ascends, Bool.and_eq_true, Nat.blt_eq] at h
      rw [← List.isChain_iff_pairwise]
      exact .cons_cons h.1 (List.isChain_iff_pairwise.mpr (pairwise_of_ascends h.2))

/-- The entries of the decompositions are in ascending order. -/
lemma decompositions_pairwise : decompositions.toList.Pairwise fun a b => a.1 < b.1 := by
  have hascends : ascends (decompositions.toList.map (·.1)) = true := by decide +kernel
  exact List.pairwise_map.mp (pairwise_of_ascends hascends)

/-- A listed character has the listed parts. -/
lemma decompositionOf_of_mem {entry : Nat × List Nat} (hentry : entry ∈ decompositions)
    (hrange : ¬(syllableBase ≤ entry.1 ∧ entry.1 < syllableBase + syllableCount)) :
    decompositionOf entry.1 = entry.2 := by
  have hfound : lastAtMost (·.1) decompositions entry.1 = some entry :=
    lastAtMost_of_mem decompositions_pairwise hentry
  rw [decompositionOf, if_neg hrange]
  split
  · rename_i composed parts hother
    rw [hfound] at hother
    obtain rfl := Option.some.inj hother
    exact if_pos rfl
  · rename_i hnone
    rw [hfound] at hnone
    cases hnone

/-- **The parts that are listed are not composed.** -/
lemma not_isComposed_of_mem_decompositions {entry : Nat × List Nat} (h : entry ∈ decompositions)
    {m : Nat} (hm : m ∈ entry.2) : isComposed m = false := by
  have hall : (decompositions.toList.all fun entry =>
      entry.2.all fun m => !isComposed m) = true := by decide +kernel
  have hentry := List.all_eq_true.mp hall entry h.val
  simpa using List.all_eq_true.mp hentry m hm

/-- The letters of a syllable are not composed. -/
lemma not_isComposed_of_mem_syllableLetters {index : Nat} (h : index < syllableCount) {m : Nat}
    (hm : m ∈ syllableLetters index) : isComposed m = false := by
  have hall : ∀ i < 0xC3, isComposed (0x1100 + i) = false := by decide +kernel
  rw [syllableCount] at h
  have hm' : m = 0x1100 + index / 588 ∨ m = 0x1161 + index % 588 / 28 ∨
      m = 0x11A7 + index % 28 := by
    simp only [syllableLetters] at hm
    split at hm <;> simp at hm <;> omega
  have hrest := hall (m - 0x1100) (by omega)
  rwa [Nat.add_sub_cancel' (by omega)] at hrest

/-- **A decomposition is not decomposed further.** -/
lemma not_isComposed_of_mem_decompositionOf {n m : Nat} (h : m ∈ decompositionOf n) :
    isComposed m = false := by
  by_cases hrange : syllableBase ≤ n ∧ n < syllableBase + syllableCount
  · rw [decompositionOf, if_pos hrange] at h
    exact not_isComposed_of_mem_syllableLetters (by omega) h
  · by_cases hlisted : composedDigits.testBit n = true
    · obtain ⟨entry, hentry, rfl⟩ := testBit_composedDigits.mp hlisted
      rw [decompositionOf_of_mem hentry hrange] at h
      exact not_isComposed_of_mem_decompositions hentry h
    · have hself : isComposed n = false := by
        rw [isComposed, Bool.eq_false_iff.mpr hlisted, Bool.false_or]
        simpa using hrange
      rw [decompositionOf_eq_self hself, List.mem_singleton] at h
      rwa [h]

/-! ### Lower case -/

/-- The characters with a lower case of their own, each with its lower case. -/
def lowercasePairs : List (Nat × Nat) :=
  lowercaseRuns.toList.flatMap fun (first, last, step, target) =>
    ((List.range (last + 1 - first)).filter fun i => i % step == 0).map fun i =>
      (first + i, target + i)

/-- The numbers of the characters with a lower case of their own. -/
def caseDigits : Nat := digitsOf (lowercasePairs.map fun pair => (pair.1, pair.1))

/-- The numbers of the marks. -/
def markDigits : Nat := digitsOf markRuns.toList

/-- A number without a digit in the set of some runs is in none of them. -/
lemma inRuns_eq_false {runs : Array (Nat × Nat)} {n : Nat}
    (h : (digitsOf runs.toList).testBit n = false) : inRuns runs n = false := by
  rw [← Bool.not_eq_true, testBit_digitsOf] at h
  rw [inRuns]
  split
  · rename_i first last hfound
    refine decide_eq_false fun hlast => h ⟨(first, last), ?_, ?_, hlast⟩
    · exact Array.mem_toList_iff.mpr (lastAtMost_mem hfound)
    · have hfirst := key_le_of_lastAtMost hfound
      exact hfirst
  · rfl

/-- A character with another lower case makes a pair with it, unless it is composed. -/
lemma mem_lowercasePairs {n m : Nat} (hn : isComposed n = false) (hm : m ∈ lowerOf n)
    (hother : lowerOf n ≠ [n]) : (n, m) ∈ lowercasePairs := by
  have hdotted : n ≠ 0x130 := by
    rintro rfl
    exact absurd hn (by decide +kernel)
  rw [lowerOf, if_neg hdotted] at hm hother
  split at hm
  · rename_i first last step target hfound
    rw [hfound] at hother
    dsimp only at hother
    have hfirst := key_le_of_lastAtMost hfound
    dsimp only at hfirst
    split_ifs at hm hother with hin
    · have hrun := Array.mem_toList_iff.mpr (lastAtMost_mem hfound)
      rw [List.mem_singleton.mp hm]
      refine List.mem_flatMap.mpr ⟨_, hrun, List.mem_map.mpr ⟨n - first, ?_, ?_⟩⟩
      · exact List.mem_filter.mpr ⟨List.mem_range.mpr (by omega), beq_iff_eq.mpr hin.2⟩
      · rw [Nat.add_sub_cancel' hfirst]
    · exact absurd rfl hother
  · rename_i hnone
    rw [hnone] at hother
    exact absurd rfl hother

/-- The number of a character that folding keeps: it is not composed, no mark, and its own lower
case. -/
structure IsPlain (n : Nat) : Prop where
  not_isComposed : isComposed n = false
  not_mark : inRuns markRuns n = false
  lowerOf_eq : lowerOf n = [n]

/-- A character without a lower case of its own is its own lower case. -/
lemma lowerOf_eq_self {n : Nat} (hn : isComposed n = false) (h : caseDigits.testBit n = false) :
    lowerOf n = [n] := by
  by_contra hother
  have hne : lowerOf n ≠ [] := by
    rw [lowerOf]
    split_ifs
    · exact List.cons_ne_nil _ _
    · split
      · split_ifs <;> exact List.cons_ne_nil _ _
      · exact List.cons_ne_nil _ _
  obtain ⟨m, hm⟩ := List.exists_mem_of_ne_nil _ hne
  rw [← Bool.not_eq_true, caseDigits, testBit_digitsOf] at h
  exact h ⟨_, List.mem_map_of_mem (mem_lowercasePairs hn hm hother), le_rfl, le_rfl⟩

/-- **The lower case of a character that is neither composed nor a mark is plain.** -/
lemma isPlain_of_mem_lowerOf {n m : Nat} (hn : isComposed n = false)
    (hmark : inRuns markRuns n = false) (hm : m ∈ lowerOf n) : IsPlain m := by
  by_cases hself : lowerOf n = [n]
  · rw [hself, List.mem_singleton] at hm
    exact hm ▸ ⟨hn, hmark, hself⟩
  · have hall : (lowercasePairs.all fun pair => isComposed pair.1 || !isComposed pair.2 &&
        !markDigits.testBit pair.2 && !caseDigits.testBit pair.2) = true := by
      decide +kernel
    have hpair := List.all_eq_true.mp hall _ (mem_lowercasePairs hn hm hself)
    rw [hn, Bool.false_or, Bool.and_eq_true, Bool.and_eq_true, Bool.not_eq_true',
      Bool.not_eq_true', Bool.not_eq_true'] at hpair
    obtain ⟨⟨hcomposed, hnoMark⟩, hnoCase⟩ := hpair
    exact ⟨hcomposed, inRuns_eq_false hnoMark, lowerOf_eq_self hcomposed hnoCase⟩

/-! ### Folded characters -/

/-- The parts of a character are not composed. -/
lemma not_isComposed_of_mem_decomposeChar {c part : Char} (h : part ∈ decomposeChar c) :
    isComposed part.toNat = false := by
  rw [decomposeChar] at h
  split at h
  · rename_i hascii
    have hall : ∀ n < 0x80, isComposed n = false := by decide +kernel
    rw [List.mem_singleton.mp h]
    exact hall _ hascii
  · rename_i hbig
    obtain ⟨m, hm, rfl⟩ := List.mem_map.mp h
    have hcvalid : c.toNat.isValidChar := c.valid
    rw [toNat_ofNat_of_valid (decompositionOf_valid (by omega) hcvalid m hm).2]
    exact not_isComposed_of_mem_decompositionOf hm

/-- A plain character beyond ASCII is folded to itself. -/
lemma foldChar_of_isPlain {c : Char} (hbig : ¬c.toNat < 0x80) (h : IsPlain c.toNat) :
    foldChar c = [c] := by
  have hself : (decompositionOf c.toNat).map Char.ofNat = [c] := by
    rw [decompositionOf_eq_self h.not_isComposed, List.map_singleton, Char.ofNat_toNat]
  have hlower : (lowerOf c.toNat).map Char.ofNat = [c] := by
    rw [h.lowerOf_eq, List.map_singleton, Char.ofNat_toNat]
  have hmark : isMark c = false := h.not_mark
  rw [foldChar, decomposeChar, if_neg hbig, hself, dropMarks,
    List.filter_cons_of_pos (by rw [hmark]; decide), List.filter_nil, List.flatMap_singleton,
    lowerChar, if_neg hbig, hlower]

/-- The lower case of an ASCII character is one. -/
lemma toNat_toLower_lt {c : Char} (h : c.toNat < 0x80) : c.toLower.toNat < 0x80 := by
  have hascii : ∀ n < 0x80, (Char.ofNat n).toLower.toNat < 0x80 := by decide +kernel
  exact forall_char_of_lt (P := fun c => c.toLower.toNat < 0x80) hascii h

/-- **A folded character is folded to itself**, and is no mark. -/
lemma foldChar_eq_self {c d : Char} (h : d ∈ foldChar c) :
    foldChar d = [d] ∧ isMark d = false := by
  obtain ⟨part, hpart, hd⟩ := List.mem_flatMap.mp h
  obtain ⟨hpart, hmark⟩ := List.mem_filter.mp hpart
  have hlower := toLower_of_mem_lowerChar hd
  by_cases hascii : d.toNat < 0x80
  · exact ⟨by rw [foldChar_of_lt hascii, hlower], isMark_of_lt hascii⟩
  · have hbig : ¬part.toNat < 0x80 := by
      intro hpartAscii
      rw [lowerChar, if_pos hpartAscii, List.mem_singleton] at hd
      exact hascii (hd ▸ toNat_toLower_lt hpartAscii)
    rw [lowerChar, if_neg hbig] at hd
    obtain ⟨m, hm, rfl⟩ := List.mem_map.mp hd
    have hvalid : part.toNat.isValidChar := part.valid
    have hplain : IsPlain m := isPlain_of_mem_lowerOf (not_isComposed_of_mem_decomposeChar hpart)
      (Bool.not_eq_true' _ ▸ hmark) hm
    rw [← toNat_ofNat_of_valid (lowerOf_valid (by omega) hvalid m hm).2] at hplain
    exact ⟨foldChar_of_isPlain hascii hplain, hplain.not_mark⟩

/-! ### Folded texts -/

/-- A way to fold texts works piece by piece and gives normal forms: texts without marks and without
capital ASCII letters, which are folded to themselves. -/
structure IsNormalForm (fold : String → String) : Prop where
  append : ∀ a b, fold (a ++ b) = fold a ++ fold b
  piece : ∀ piece text : String, piece.toList <:+: text.toList →
    (fold piece).toList <:+: (fold text).toList
  idempotent : ∀ s, fold (fold s) = fold s
  not_mark : ∀ s, ∀ c ∈ (fold s).toList, isMark c = false
  not_capital : ∀ s, ∀ c ∈ (fold s).toList, c.isUpper = false

/-- Folding a folded text changes nothing. -/
lemma foldChars_foldChars (cs : List Char) : foldChars (foldChars cs) = foldChars cs := by
  rw [foldChars_eq_flatMap cs, foldChars_eq_flatMap, List.flatMap_assoc]
  refine List.flatMap_congr fun c _ => ?_
  calc (foldChar c).flatMap foldChar = (foldChar c).flatMap fun d => [d] :=
        List.flatMap_congr fun d hd => (foldChar_eq_self hd).1
    _ = foldChar c := List.flatMap_singleton' _

/-- There are no marks in a folded text. -/
lemma isMark_of_mem_foldChars {d : Char} {cs : List Char} (h : d ∈ foldChars cs) :
    isMark d = false := by
  rw [foldChars_eq_flatMap] at h
  obtain ⟨c, -, hd⟩ := List.mem_flatMap.mp h
  exact (foldChar_eq_self hd).2

/-- **Folding works piece by piece and gives normal forms.** -/
lemma isNormalForm_fold : IsNormalForm fold where
  append a b := by
    rw [← String.toList_inj, String.toList_append, fold, fold, fold, String.toList_ofList,
      String.toList_ofList, String.toList_ofList, String.toList_append, foldChars_eq_flatMap,
      foldChars_eq_flatMap, foldChars_eq_flatMap, List.flatMap_append]
  piece piece text h := by
    rw [fold, fold, String.toList_ofList, String.toList_ofList]
    exact foldChars_isInfix h
  idempotent s := by
    rw [fold, fold, String.toList_ofList, foldChars_foldChars]
  not_mark s c hc := by
    rw [fold, String.toList_ofList] at hc
    exact isMark_of_mem_foldChars hc
  not_capital s c hc := by
    rw [fold, String.toList_ofList] at hc
    rw [← toLower_of_mem_foldChars hc]
    exact Char.isUpper_toLower_eq_false c

end TableExplorer.Text
