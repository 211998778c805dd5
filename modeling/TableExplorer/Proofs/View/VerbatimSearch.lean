import TableExplorer.Proofs.Text.FoldedForm
import TableExplorer.Proofs.View.FoldedSearch

/-!
A search for a piece of a cell.  Folding works piece by piece, so what stands in a text also stands
in the folded text when both are folded, and a search finds the cells that contain its text as it
is written.  A search looks into a cell up to its first NUL character and no further.

* `Search.accepts_of_verbatim`: **one cell**, which is found by what is written in it.
* `Search.finds_verbatim`: **folded texts are a normal form, and the search for them is exact**.
  `Search.finds_before_nul` has a piece that stands in front of a NUL character, and
  `Search.not_finds_behind_nul` one that stands behind it.
-/

namespace TableExplorer.Search

/-- A cell fits the pattern of what is written in it in front of its first NUL character. -/
lemma accepts_of_verbatim (ids : List Identifier) {query : String} {cell : Cell}
    (h : query.toList <:+: cell.searchedString.toList) :
    Condition.acceptsCell ⟨ids, patternOf (Text.trim query)⟩ cell = true :=
  (Condition.acceptsCell_iff_searched ids _ cell).mpr (Text.fold_trim_isInfix h)

/-- **Folding is compositional and gives normal forms, and a search is exact on them**: it finds a
record if and only if its text is blank, it has no columns, or the folded text stands in some
folded cell in front of the first NUL character.  So a record is found by every text that a cell
contains there as it is written. -/
theorem finds_verbatim (columns : List String) (query : String) :
    Text.IsNormalForm Text.fold ∧
      ((∀ name ∈ columns, Identifier.fault? name = none) → checkSearchText query = .ok () →
        ∃ search, ofQuery columns query = .ok search ∧ ∀ (rel : Relation) (record : Record),
          (search.finds rel record = true ↔
            Text.trim query = "" ∨ columns = [] ∨ ∃ name ∈ columns,
              (Text.fold (Text.trim query)).toList <:+:
                (Text.fold (rel.cell name record).searchedString).toList) ∧
          ∀ name ∈ columns, query.toList <:+: (rel.cell name record).searchedString.toList →
            search.finds rel record = true) := by
  refine ⟨Text.isNormalForm_fold, fun hnames hquery => ?_⟩
  obtain ⟨ids, search, hsearch, hfinds⟩ := finds_iff_accepts hnames hquery
  refine ⟨search, hsearch, fun rel record => ⟨?_, fun name hname hverbatim => ?_⟩⟩
  · simp only [hfinds, Condition.acceptsCell_iff_searched]
  · exact (hfinds rel record).mpr
      (Or.inr (Or.inr ⟨name, hname, accepts_of_verbatim ids hverbatim⟩))

/-- A piece in front of a NUL character is found, as it is written and in other letters, and a text
that stands nowhere is not. -/
theorem finds_before_nul :
    (∀ name ∈ ["Nota"], Identifier.fault? name = none) ∧ checkSearchText "É 5%" = .ok () ∧
      let rel : Relation := { columns := [⟨"Nota", "TEXT"⟩], records := [], numbered := true }
      ∃ search, ofQuery ["Nota"] "É 5%" = .ok search ∧
        search.finds rel ⟨1, [.ofString "CAFÉ 5%\x00x"]⟩ = true ∧
        search.finds rel ⟨2, [.ofString "cafe 5%\x00x"]⟩ = true ∧
        ¬search.finds rel ⟨3, [.ofString "cafe 50\x00x"]⟩ = true := by
  obtain ⟨search, hsearch, hfinds⟩ :=
    (finds_verbatim ["Nota"] "É 5%").2 (by decide +kernel) (by decide +kernel)
  refine ⟨by decide +kernel, by decide +kernel, search, hsearch, ?_, ?_, ?_⟩
  · exact (hfinds _ _).2 "Nota" (by decide) (by decide +kernel)
  · exact (hfinds _ _).1.mpr (by decide +kernel)
  · exact (not_congr (hfinds _ _).1).mpr (by decide +kernel)

/-- A piece behind a NUL character stands in its cell and is not found. -/
theorem not_finds_behind_nul :
    (∀ name ∈ ["a"], Identifier.fault? name = none) ∧ checkSearchText "bc" = .ok () ∧
      "bc".toList <:+: (Cell.ofString "a\x00bc").castString.toList ∧
      let rel : Relation := { columns := [⟨"a", "TEXT"⟩], records := [], numbered := true }
      ∃ search, ofQuery ["a"] "bc" = .ok search ∧
        ¬search.finds rel ⟨1, [.ofString "a\x00bc"]⟩ = true :=
  ⟨by decide +kernel, by decide +kernel, by decide +kernel, _, rfl, by decide +kernel⟩

end TableExplorer.Search
