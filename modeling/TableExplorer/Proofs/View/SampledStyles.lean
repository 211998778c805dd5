import TableExplorer.Proofs.Amount.Detection
import TableExplorer.Proofs.Dataset.Relations
import TableExplorer.Proofs.View.FoldedSearch
import TableExplorer.View.Detection

/-!
The styles of sampled columns.  The samples are the first texts of a column, and a style is numeric
as soon as one of them follows a pattern; so a column that has amounts by some samples has them by
more.  This ends where the number of samples no longer fits into a statement: then the column is not
sampled at all, and holds texts.

* `Relation.sampledTexts`: the texts of a column that can be sampled.
* `AmountStyle.isNumeric_classify_iff`: **which samples have a numeric style**.
* `StyleDetector.detect_eq_ite`: **the style of a column by so many samples**;
  `StyleDetector.detect_eq_text`: that of a column that cannot be sampled;
  `StyleDetector.isNumeric_detect_mono`: more samples keep it numeric.
-/

namespace TableExplorer

/-! ### Styles of more samples -/

namespace AmountStyle

variable {samples more : List String}

/-- **Samples have a numeric style** if and only if one of them follows a style. -/
lemma isNumeric_classify_iff :
    (classify samples).isNumeric = true ↔ ∃ s ∈ samples, ∃ style : AmountStyle,
      style.follows s = true := by
  constructor
  · intro h
    obtain ⟨s, hs, hfollows⟩ := exists_follows h
    exact ⟨s, hs, classify samples, hfollows⟩
  · rintro ⟨s, hs, style, hfollows⟩
    have hpos : ∀ test : List Char → Bool, test (Text.trimEnds Text.isBlank s.toList) = true →
        0 < (samples.map fun s => Text.trimEnds Text.isBlank s.toList).countP test :=
      fun test htest => List.countP_pos_iff.mpr ⟨_, List.mem_map_of_mem hs, htest⟩
    have hsome : ¬((samples.map fun s => Text.trimEnds Text.isBlank s.toList).countP
          Amount.isEuro = 0 ∧
        (samples.map fun s => Text.trimEnds Text.isBlank s.toList).countP
          Amount.isPlainDot = 0) := by
      cases style with
      | text => cases hfollows
      | euro => exact fun h => (hpos Amount.isEuro hfollows).ne' h.1
      | plainDot => exact fun h => (hpos Amount.isPlainDot hfollows).ne' h.2
    simp only [classify, if_neg hsome]
    split <;> rfl

/-- A numeric style stays numeric with more samples. -/
lemma isNumeric_classify_mono (hmore : samples ⊆ more)
    (h : (classify samples).isNumeric = true) : (classify more).isNumeric = true := by
  obtain ⟨s, hs, hfollows⟩ := isNumeric_classify_iff.mp h
  exact isNumeric_classify_iff.mpr ⟨s, hmore hs, hfollows⟩

end AmountStyle

/-! ### The styles of columns -/

/-- The texts of a column that can be sampled, among the records that are found. -/
def Relation.sampledTexts (rel : Relation) (column : String) (search : Search) : List String :=
  (((rel.records.filter (search.finds rel)).map (rel.cell column)).filter Cell.isSampled).map
    fun cell => cell.read.display

namespace StyleDetector

variable {d : Dataset} {table column : String} {rel : Relation} {search : Search}

/-- The samples are the first texts that can be sampled. -/
lemma samplesIn_eq (detector : StyleDetector) (rel : Relation) (column : Identifier)
    (search : Search) :
    detector.samplesIn rel column search =
      (rel.sampledTexts column.name search).take detector.limit := by
  rw [samplesIn, Search.matching_eq_filter, Relation.sampledTexts, List.map_take]

/-- **A column that cannot be sampled** holds texts, whatever the number of samples: its records
cannot be read, or the search has too many levels for the statement. -/
lemma detect_eq_text (hfound : d.relation? table = some rel)
    (hunsampled : ¬(rel.failure? = none ∧ search.depth < maxDepth)) (size : Nat) :
    detect ⟨size⟩ (.dataset d) table column search = .text := by
  rw [detect]
  split
  · rename_i samples hsamples
    obtain ⟨_, -, hsamples⟩ := Result.bind_eq_ok_iff.mp hsamples
    obtain ⟨id, hid, hsamples⟩ := Result.bind_eq_ok_iff.mp hsamples
    obtain ⟨_, hdepth, hsamples⟩ := Result.bind_eq_ok_iff.mp hsamples
    obtain ⟨other, hother, -⟩ := Result.bind_eq_ok_iff.mp hsamples
    obtain ⟨hother, hreadable⟩ := Contents.source_eq_ok_iff.mp hother
    rw [Identifier.ofName_eq_ok_iff.mp hid, hfound, Option.some.injEq] at hother
    rw [← hother] at hreadable
    exact absurd ⟨hreadable, Search.checkDepth_eq_ok_iff.mp hdepth⟩ hunsampled
  · rfl

section

variable (htable : Identifier.fault? table = none) (hcolumn : Identifier.fault? column = none)
  (hfound : d.relation? table = some rel)

include htable hcolumn hfound

/-- **The style of a column by so many samples** is that of its first texts, if the number fits into
a statement, and that of texts if it does not. -/
lemma detect_eq_ite (hreadable : rel.failure? = none) (hdepth : search.depth < maxDepth)
    (size : Nat) :
    detect ⟨size⟩ (.dataset d) table column search =
      if size < Word.signedBound then
        .classify ((rel.sampledTexts column search).take (max size 1))
      else .text := by
  have hsource : Contents.source (.dataset d) ⟨table, htable⟩ = .ok rel :=
    Contents.source_eq_ok_iff.mpr ⟨hfound, hreadable⟩
  have hchecked : search.checkDepth 1 = .ok () := Search.checkDepth_eq_ok_iff.mpr hdepth
  have hsamples : samples ⟨size⟩ (.dataset d) table column search =
      checkLimit (max size 1) >>= fun _ =>
        .ok ((rel.sampledTexts column search).take (max size 1)) := by
    rw [samples, Identifier.ofName_of_valid hcolumn, Identifier.ofName_of_valid htable,
      Result.ok_bind, Result.ok_bind, hchecked, Result.ok_bind, hsource, Result.ok_bind,
      samplesIn_eq]
    rfl
  have hfits : max size 1 < Word.signedBound ↔ size < Word.signedBound :=
    max_lt_iff.trans (and_iff_left (by decide))
  rw [detect, hsamples, checkLimit]
  simp only [hfits]
  split_ifs <;> rfl

/-- **A column that has amounts** by some samples has them by more, if their number fits into a
statement. -/
lemma isNumeric_detect_mono {few many : Nat} (hle : few ≤ many) (hfits : many < Word.signedBound)
    (h : (detect ⟨few⟩ (.dataset d) table column search).isNumeric = true) :
    (detect ⟨many⟩ (.dataset d) table column search).isNumeric = true := by
  by_cases hsampled : rel.failure? = none ∧ search.depth < maxDepth
  · have hstyle := detect_eq_ite htable hcolumn hfound hsampled.1 hsampled.2
    rw [hstyle, if_pos (hle.trans_lt hfits)] at h
    rw [hstyle, if_pos hfits]
    exact AmountStyle.isNumeric_classify_mono
      (List.take_subset_take_left _ (max_le_max hle le_rfl)) h
  · rw [detect_eq_text hfound hsampled] at h
    cases h

end

end StyleDetector

end TableExplorer
