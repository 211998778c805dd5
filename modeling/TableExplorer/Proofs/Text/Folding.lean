import Mathlib
import TableExplorer.Text.Fold

/-!
What folding leaves behind.  A folded text is in a normal form of two properties that a search
relies on: it holds no capital ASCII letter, so that a comparison that overlooks the case of ASCII
letters compares folded texts exactly, and it holds a NUL character only if the text did.

* `lastAtMost_mem`: a look-up in a table of code points answers with an entry of the table, so that
  a property of all entries is one of all answers.
* `decomposeChar_ne_nul`, `lowerChar_ne_nul`: neither step of folding makes a NUL character.
* `mem_orderMarks`: ordering the marks moves characters and neither drops nor adds any.
* `toLower_of_mem_foldChars`, `nul_notMem_foldChars`: **the normal form**.
-/

namespace TableExplorer.Text

/-! ### Look-up in tables -/

/-- The entry found between two places of a table is one of the table. -/
lemma lastAtMostBetween_mem {α : Type} {key : α → Nat} {table : Array α} {n : Nat} {entry : α} :
    ∀ {fuel low high : Nat}, lastAtMostBetween key table n fuel low high = some entry →
      entry ∈ table := by
  intro fuel
  induction fuel with
  | zero =>
      intro low high h
      simp [lastAtMostBetween] at h
  | succ fuel ih =>
      intro low high h
      rw [lastAtMostBetween] at h
      split at h
      · split at h
        · simp at h
        · exact Array.mem_of_getElem? h
      · dsimp only at h
        split at h
        · split at h <;> exact ih h
        · simp at h

/-- The entry found in a table is one of the table. -/
lemma lastAtMost_mem {α : Type} {key : α → Nat} {table : Array α} {n : Nat} {entry : α}
    (h : lastAtMost key table n = some entry) : entry ∈ table :=
  lastAtMostBetween_mem h

/-! ### Code points -/

/-- A number that is a code point is the number of its character. -/
lemma toNat_ofNat_of_valid {n : Nat} (h : n.isValidChar) : (Char.ofNat n).toNat = n := by
  rw [Char.toNat_ofNat, if_pos h]

/-- A code point other than zero is not that of the NUL character. -/
lemma ofNat_ne_nul {n : Nat} (hn : n ≠ 0) (h : n.isValidChar) : Char.ofNat n ≠ '\x00' := by
  intro heq
  have hnat := toNat_ofNat_of_valid h
  rw [heq] at hnat
  exact hn hnat.symm

/-- A character behind the capital ASCII letters is its own lower case in ASCII. -/
lemma toLower_of_le_toNat {c : Char} (h : 0x5B ≤ c.toNat) : c.toLower = c := by
  refine Char.toLower_eq_of_not_isUpper fun hup => ?_
  have hrange : 65 ≤ c.toNat ∧ c.toNat ≤ 90 := by
    simpa [Char.isUpper, UInt32.le_iff_toNat_le, ← Char.toNat_val] using hup
  omega

/-- The NUL character is the lower case in ASCII of itself only. -/
lemma eq_nul_of_toLower {c : Char} (h : c.toLower = '\x00') : c = '\x00' := by
  by_cases hup : c.isUpper
  · have hlow := Char.isLower_toLower_eq_isAlpha c
    rw [h, Char.isAlpha, hup, Bool.true_or] at hlow
    exact absurd hlow (by decide)
  · rwa [Char.toLower_eq_of_not_isUpper hup] at h

/-! ### Decomposition -/

/-- The parts of the listed decompositions are code points other than zero. -/
lemma decompositions_valid {entry : Nat × List Nat} (h : entry ∈ decompositions) :
    ∀ m ∈ entry.2, m ≠ 0 ∧ m.isValidChar := by
  have hall : (decompositions.toList.all fun e =>
      e.2.all fun m => decide (m ≠ 0 ∧ m.isValidChar)) = true := by decide +kernel
  rw [List.all_eq_true] at hall
  have he := hall entry h.val
  rw [List.all_eq_true] at he
  intro m hm
  simpa using he m hm

/-- The letters of a Korean syllable are code points other than zero. -/
lemma syllableLetters_valid {index : Nat} (h : index < syllableCount) :
    ∀ m ∈ syllableLetters index, m ≠ 0 ∧ m.isValidChar := by
  rw [syllableCount] at h
  intro m hm
  have hm' : m = 0x1100 + index / 588 ∨ m = 0x1161 + index % 588 / 28 ∨
      m = 0x11A7 + index % 28 := by
    simp only [syllableLetters] at hm
    split at hm <;> simp at hm <;> omega
  rw [Nat.isValidChar]
  omega

/-- The parts of a character other than NUL are code points other than zero. -/
lemma decompositionOf_valid {n : Nat} (hn : n ≠ 0) (hvalid : n.isValidChar) :
    ∀ m ∈ decompositionOf n, m ≠ 0 ∧ m.isValidChar := by
  intro m hm
  rw [decompositionOf] at hm
  split at hm
  · rename_i hrange
    exact syllableLetters_valid (by omega) m hm
  · split at hm
    · rename_i composed parts hfound
      split at hm
      · exact decompositions_valid (lastAtMost_mem hfound) m hm
      · rw [List.mem_singleton.mp hm]
        exact ⟨hn, hvalid⟩
    · rw [List.mem_singleton.mp hm]
      exact ⟨hn, hvalid⟩

/-- Only the NUL character decomposes into one with a NUL character. -/
lemma decomposeChar_ne_nul {c d : Char} (hc : c ≠ '\x00') (hd : d ∈ decomposeChar c) :
    d ≠ '\x00' := by
  rw [decomposeChar] at hd
  split at hd
  · rwa [List.mem_singleton.mp hd]
  · rename_i hbig
    obtain ⟨m, hm, rfl⟩ := List.mem_map.mp hd
    have hcvalid : c.toNat.isValidChar := c.valid
    obtain ⟨hm0, hvalid⟩ := decompositionOf_valid (by omega) hcvalid m hm
    exact ofNat_ne_nul hm0 hvalid

/-! ### The order of marks -/

/-- Putting a character among others by its class keeps all of them. -/
lemma insertByClass_perm (c : Char) (cs : List Char) : (insertByClass c cs).Perm (c :: cs) := by
  induction cs with
  | nil => exact List.Perm.refl _
  | cons d rest ih =>
      rw [insertByClass]
      split
      · exact (List.Perm.cons d ih).trans (List.Perm.swap c d rest)
      · exact List.Perm.refl _

/-- Ordering the marks keeps all characters. -/
lemma orderMarks_perm (cs : List Char) : (orderMarks cs).Perm cs := by
  induction cs with
  | nil => exact List.Perm.refl _
  | cons c rest ih =>
      rw [orderMarks]
      split
      · exact List.Perm.cons c ih
      · exact (insertByClass_perm c _).trans (List.Perm.cons c ih)

/-- A character stands in the ordered text if and only if it stands in the text. -/
lemma mem_orderMarks {c : Char} {cs : List Char} : c ∈ orderMarks cs ↔ c ∈ cs :=
  (orderMarks_perm cs).mem_iff

/-! ### Lower case -/

/-- The lower cases in the runs begin at the small letters and stay among the code points. -/
lemma lowercaseRuns_valid {entry : Nat × Nat × Nat × Nat} (h : entry ∈ lowercaseRuns) :
    0x61 ≤ entry.2.2.2 ∧
      ((0xDFFF < entry.2.2.2 ∨ entry.2.2.2 + (entry.2.1 - entry.1) < 0xD800) ∧
        entry.2.2.2 + (entry.2.1 - entry.1) < 0x110000) := by
  have hall : (lowercaseRuns.toList.all fun e =>
      decide (0x61 ≤ e.2.2.2 ∧ ((0xDFFF < e.2.2.2 ∨ e.2.2.2 + (e.2.1 - e.1) < 0xD800) ∧
        e.2.2.2 + (e.2.1 - e.1) < 0x110000))) = true := by decide +kernel
  rw [List.all_eq_true] at hall
  simpa using hall entry h.val

/-- The lower case of a code point beyond ASCII has no capital ASCII letter and no NUL. -/
lemma lowerOf_valid {n : Nat} (hn : 0x80 ≤ n) (hvalid : n.isValidChar) :
    ∀ m ∈ lowerOf n, 0x5B ≤ m ∧ m.isValidChar := by
  intro m hm
  rw [lowerOf] at hm
  split at hm
  · simp only [List.mem_cons, List.not_mem_nil, or_false] at hm
    rcases hm with rfl | rfl <;> decide
  · split at hm
    · rename_i first last step target hfound
      have hrun := lowercaseRuns_valid (lastAtMost_mem hfound)
      dsimp only at hrun
      split at hm
      · rw [List.mem_singleton.mp hm, Nat.isValidChar]
        omega
      · rw [List.mem_singleton.mp hm]
        exact ⟨by omega, hvalid⟩
    · rw [List.mem_singleton.mp hm]
      exact ⟨by omega, hvalid⟩

/-- The lower case of a character is no capital ASCII letter. -/
lemma toLower_of_mem_lowerChar {c d : Char} (hd : d ∈ lowerChar c) : d.toLower = d := by
  rw [lowerChar] at hd
  split at hd
  · rw [List.mem_singleton.mp hd]
    exact Char.toLower_toLower_eq_toLower c
  · rename_i hbig
    obtain ⟨m, hm, rfl⟩ := List.mem_map.mp hd
    have hcvalid : c.toNat.isValidChar := c.valid
    obtain ⟨hm5, hvalid⟩ := lowerOf_valid (by omega) hcvalid m hm
    exact toLower_of_le_toNat (by rwa [toNat_ofNat_of_valid hvalid])

/-- Only the NUL character has a lower case with a NUL character. -/
lemma lowerChar_ne_nul {c d : Char} (hc : c ≠ '\x00') (hd : d ∈ lowerChar c) : d ≠ '\x00' := by
  rw [lowerChar] at hd
  split at hd
  · rw [List.mem_singleton.mp hd]
    exact fun h => hc (eq_nul_of_toLower h)
  · rename_i hbig
    obtain ⟨m, hm, rfl⟩ := List.mem_map.mp hd
    have hcvalid : c.toNat.isValidChar := c.valid
    obtain ⟨hm5, hvalid⟩ := lowerOf_valid (by omega) hcvalid m hm
    exact ofNat_ne_nul (by omega) hvalid

/-! ### The folded text -/

/-- A folded character comes from a character of the text by decomposition and lower case. -/
lemma exists_of_mem_foldChars {d : Char} {cs : List Char} (h : d ∈ foldChars cs) :
    ∃ c ∈ cs, ∃ part ∈ decomposeChar c, d ∈ lowerChar part := by
  obtain ⟨part, hpart, hd⟩ := List.mem_flatMap.mp h
  have hmem := mem_orderMarks.mp (List.mem_of_mem_filter hpart)
  obtain ⟨c, hc, hpc⟩ := List.mem_flatMap.mp hmem
  exact ⟨c, hc, part, hpc, hd⟩

/-- **The normal form, case**: a folded text has no capital ASCII letter. -/
lemma toLower_of_mem_foldChars {d : Char} {cs : List Char} (h : d ∈ foldChars cs) :
    d.toLower = d := by
  obtain ⟨_, _, _, _, hd⟩ := exists_of_mem_foldChars h
  exact toLower_of_mem_lowerChar hd

/-- **The normal form, NUL**: folding makes no NUL character. -/
lemma nul_notMem_foldChars {cs : List Char} (h : '\x00' ∉ cs) : '\x00' ∉ foldChars cs := by
  intro hmem
  obtain ⟨c, hc, part, hpart, hd⟩ := exists_of_mem_foldChars hmem
  have hcn : c ≠ '\x00' := fun heq => h (heq ▸ hc)
  exact lowerChar_ne_nul (decomposeChar_ne_nul hcn hpart) hd rfl

end TableExplorer.Text
