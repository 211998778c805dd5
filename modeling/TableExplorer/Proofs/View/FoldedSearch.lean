import Mathlib
import TableExplorer.Proofs.Dataset.Names
import TableExplorer.Proofs.Dataset.Wildcards
import TableExplorer.Proofs.Text.FoldedPieces
import TableExplorer.View.Search

/-!
What a search finds.  A search for a text finds the records of which some cell, cast to text and
folded, contains the folded text; nothing in the text is a wildcard, and the matcher's own
indifference to the case of ASCII letters finds nothing more.

* `Cell.castString`: the text of a cell, before it is folded; `Cell.searchedString`: what a search
  looks into of it.
* `Condition.acceptsCell_iff_searched`, `Condition.acceptsCell_iff`: **one cell**, from the normal
  form of folded texts and the containment of escaped patterns.
* `Search.matching_eq_filter`: the records of a relation that are found, in their order.
* `Search.finds_iff_accepts`: a search by the cells that the pattern of its text fits.
* `Search.finds_iff_folded_infix`: **the search**; a search in no columns finds everything, as
  `Search.finds_in_no_columns` shows of a text that no column contains.
-/

namespace TableExplorer

/-- The text of a cell cast to text; nothing is the empty text. -/
def Cell.castString (cell : Cell) : String :=
  match cell.castText? with
  | some bytes => Text.Utf8.decode bytes
  | none => ""

/-- The folded cast of a cell is its cast, folded. -/
lemma Cell.castFolded_eq (cell : Cell) : cell.castFolded = Text.fold cell.castString := by
  rw [Cell.castFolded, Cell.castString]
  cases cell.castText? with
  | none => rfl
  | some bytes => rfl

/-- The part of that text that a search looks into: what comes before its first NUL character. -/
def Cell.searchedString (cell : Cell) : String :=
  String.ofList (Pattern.beforeNul cell.castString.toList)

/-- A text without NUL characters does not end early. -/
lemma beforeNul_of_notMem {s : String} (h : '\x00' ∉ s.toList) :
    String.ofList (Pattern.beforeNul s.toList) = s := by
  have hself : Pattern.beforeNul s.toList = s.toList :=
    List.takeWhile_eq_self_iff.mpr fun c hc => bne_iff_ne.mpr fun heq => h (heq ▸ hc)
  rw [hself, String.ofList_toList]

/-- A text without NUL characters is looked into as a whole. -/
lemma Cell.searchedString_eq {cell : Cell} (h : hasNul cell.castString = false) :
    cell.searchedString = cell.castString :=
  beforeNul_of_notMem (mt hasNul_iff.mpr (Bool.eq_false_iff.mp h))

/-- A NUL character is folded to itself, and no other character to one, so a folded text ends early
where the text does. -/
lemma beforeNul_foldChars (cs : List Char) :
    Pattern.beforeNul (Text.foldChars cs) = Text.foldChars (Pattern.beforeNul cs) := by
  rw [Text.foldChars_eq_flatMap, Text.foldChars_eq_flatMap]
  induction cs with
  | nil => rfl
  | cons c cs ih =>
      by_cases hc : c = '\x00'
      · rw [hc, List.flatMap_cons, Text.foldChar_of_lt (by decide)]
        rfl
      · have hkeep : ∀ d ∈ Text.foldChar c, (d != '\x00') = true := by
          intro d hd
          have hnul : '\x00' ∉ Text.foldChars [c] :=
            Text.nul_notMem_foldChars fun h => hc (List.mem_singleton.mp h).symm
          rw [Text.foldChars_eq_flatMap, List.flatMap_singleton] at hnul
          exact bne_iff_ne.mpr fun heq => hnul (heq ▸ hd)
        have hstep : Pattern.beforeNul (c :: cs) = c :: Pattern.beforeNul cs :=
          List.takeWhile_cons_of_pos (bne_iff_ne.mpr hc)
        rw [hstep, List.flatMap_cons, List.flatMap_cons, ← ih]
        exact List.takeWhile_append_of_pos hkeep

namespace Condition

/-- **One cell**: it fits the pattern of a text if and only if the part of its cast that is looked
into contains the text, both folded. -/
lemma acceptsCell_iff_searched (ids : List Identifier) (text : String) (cell : Cell) :
    acceptsCell ⟨ids, Search.patternOf text⟩ cell = true ↔
      (Text.fold text).toList <:+: (Text.fold cell.searchedString).toList := by
  have hlower : ∀ s : String, ∀ c ∈ (Text.fold s).toList, c.toLower = c := by
    intro s c hc
    rw [Text.fold, String.toList_ofList] at hc
    exact Text.toLower_of_mem_foldChars hc
  have hsearched : Pattern.beforeNul (Text.fold cell.castString).toList =
      (Text.fold cell.searchedString).toList := by
    rw [Text.fold, Text.fold, Cell.searchedString, String.toList_ofList, String.toList_ofList,
      String.toList_ofList, beforeNul_foldChars]
  rw [acceptsCell, Search.patternOf, Pattern.accepts_escaped_iff, Cell.castFolded_eq, hsearched]
  constructor
  · rintro ⟨part, hpart, hsame⟩
    have hpartLower : ∀ c ∈ part, c.toLower = c :=
      fun c hc => hlower _ c (hpart.subset hc)
    rwa [(Pattern.forall₂_sameLetter_iff (hlower text) hpartLower).mp hsame]
  · intro h
    exact ⟨_, h, (Pattern.forall₂_sameLetter_iff (hlower text) (hlower text)).mpr rfl⟩

/-- One cell without NUL characters: it fits the pattern of a text if and only if its folded cast
contains the folded text. -/
lemma acceptsCell_iff (ids : List Identifier) (text : String) {cell : Cell}
    (hnul : hasNul cell.castString = false) :
    acceptsCell ⟨ids, Search.patternOf text⟩ cell = true ↔
      (Text.fold text).toList <:+: (Text.fold cell.castString).toList := by
  rw [acceptsCell_iff_searched, Cell.searchedString_eq hnul]

/-- The columns of a condition are read by their names. -/
lemma acceptsAt_iff {c : Condition} {rel : Relation} {record : Record} :
    c.acceptsAt (c.columns.map fun id => rel.reference id.name) record = true ↔
      ∃ name ∈ c.columns.map (·.name), c.acceptsCell (rel.cell name record) = true := by
  simp only [acceptsAt, List.any_map, List.any_eq_true, List.mem_map, Function.comp_apply]
  constructor
  · rintro ⟨id, hid, h⟩
    exact ⟨id.name, ⟨id, hid, rfl⟩, h⟩
  · rintro ⟨_, ⟨id, hid, rfl⟩, h⟩
    exact ⟨id, hid, h⟩

end Condition

namespace Search

/-- The records that are found are those of the relation that fulfil the search, in their order. -/
lemma matching_eq_filter (s : Search) (rel : Relation) :
    s.matching rel = rel.records.filter (s.finds rel) := by
  rw [matching]
  split
  · rename_i c hc
    refine List.filter_congr fun record _ => ?_
    simp only [finds, hc]
  · rename_i hc
    refine (List.filter_eq_self.mpr fun record _ => ?_).symm
    simp only [finds, hc]

/-- The search for an accepted text in some columns: everything for a blank text or without columns,
and else the columns with the pattern of the trimmed text. -/
lemma ofQuery_eq {ids : List Identifier} {query : String}
    (hquery : checkSearchText query = .ok ()) :
    ofQuery (ids.map (·.name)) query =
      .ok (if (Text.trim query).isEmpty || (ids.map (·.name)).isEmpty then .all
        else ⟨Text.trim query, some ⟨ids, patternOf (Text.trim query)⟩⟩) := by
  have hmap : (ids.map (·.name)).mapM Identifier.ofName = .ok ids :=
    Identifier.mapM_ofName_eq_ok_iff.mpr rfl
  simp only [ofQuery, hquery, hmap]
  split <;> rfl

/-- A search that is accepted is made of the identifiers of its columns. -/
lemma ofQuery_of_valid {columns : List String} {query : String}
    (hnames : ∀ name ∈ columns, Identifier.fault? name = none)
    (hquery : checkSearchText query = .ok ()) :
    ∃ ids : List Identifier, ids.map (·.name) = columns ∧
      ofQuery columns query = .ok (if (Text.trim query).isEmpty || columns.isEmpty then .all
        else ⟨Text.trim query, some ⟨ids, patternOf (Text.trim query)⟩⟩) := by
  obtain ⟨ids, rfl⟩ := Identifier.exists_map_name hnames
  exact ⟨ids, rfl, ofQuery_eq hquery⟩

/-- A search has few enough levels if the check accepts it. -/
lemma checkDepth_eq_ok_iff {s : Search} {around : Nat} :
    s.checkDepth around = .ok () ↔ s.depth + around ≤ maxDepth := by
  rw [checkDepth, ite_eq_left_iff, not_imp_comm]
  simp only [reduceCtorEq, not_false_eq_true, true_implies]

/-- The check refuses a search with too many levels. -/
lemma checkDepth_eq_error {s : Search} {around : Nat} (h : maxDepth < s.depth + around) :
    s.checkDepth around = .error (.query tooDeepDetail) :=
  if_neg h.not_ge

/-- The search for a text has few enough levels for a statement if the text is blank or if there are
not too many columns. -/
lemma depth_le_iff {columns : List String} {query : String} {s : Search}
    (h : ofQuery columns query = .ok s) :
    s.depth ≤ maxDepth ↔ (Text.trim query).isEmpty = true ∨ columns.length ≤ maxColumns := by
  obtain ⟨_, -, h⟩ := Result.bind_eq_ok_iff.mp h
  dsimp only at h
  split_ifs at h with hall
  · obtain rfl := Except.ok.inj h
    rw [Bool.or_eq_true, List.isEmpty_iff] at hall
    exact iff_of_true (Nat.zero_le _)
      (hall.imp_right fun hnil => by rw [hnil]; exact Nat.zero_le _)
  · obtain ⟨ids, hids, h⟩ := Result.bind_eq_ok_iff.mp h
    obtain rfl := Except.ok.inj h
    rw [Bool.or_eq_true, not_or] at hall
    rw [or_iff_right hall.1, ← Identifier.mapM_ofName_eq_ok_iff.mp hids, List.length_map]
    show ids.length + 3 ≤ maxDepth ↔ _
    rw [maxDepth, maxColumns]
    omega

/-- A search by an accepted text in columns with valid names is made, and finds a record if and only
if the text is blank, there are no columns, or the pattern of the text fits a cell in a column. -/
lemma finds_iff_accepts {columns : List String} {query : String}
    (hnames : ∀ name ∈ columns, Identifier.fault? name = none)
    (hquery : checkSearchText query = .ok ()) :
    ∃ (ids : List Identifier) (search : Search), ofQuery columns query = .ok search ∧
      ∀ (rel : Relation) (record : Record), search.finds rel record = true ↔
        Text.trim query = "" ∨ columns = [] ∨ ∃ name ∈ columns,
          Condition.acceptsCell ⟨ids, patternOf (Text.trim query)⟩
            (rel.cell name record) = true := by
  obtain ⟨ids, hids, hsearch⟩ := ofQuery_of_valid hnames hquery
  refine ⟨ids, _, hsearch, fun rel record => ?_⟩
  have hcond : ((Text.trim query).isEmpty || columns.isEmpty) = true ↔
      Text.trim query = "" ∨ columns = [] := by
    rw [Bool.or_eq_true, String.isEmpty_iff, List.isEmpty_iff]
  by_cases hall : Text.trim query = "" ∨ columns = []
  · rw [if_pos (hcond.mpr hall), ← or_assoc]
    exact iff_of_true rfl (Or.inl hall)
  · rw [if_neg (mt hcond.mp hall), ← or_assoc, or_iff_right hall, ← hids]
    exact Condition.acceptsAt_iff

/-- **The search**: it is made of every accepted text and all valid names, and finds a record if and
only if the text is blank, there are no columns, or some column's folded cast contains the folded
text. -/
theorem finds_iff_folded_infix (columns : List String) (query : String)
    (hnames : ∀ name ∈ columns, Identifier.fault? name = none)
    (hquery : checkSearchText query = .ok ()) :
    ∃ search, ofQuery columns query = .ok search ∧
      ∀ (rel : Relation) (record : Record),
        (∀ name ∈ columns, hasNul (rel.cell name record).castString = false) →
        (search.finds rel record = true ↔
          Text.trim query = "" ∨ columns = [] ∨
            ∃ name ∈ columns, (Text.fold (Text.trim query)).toList <:+:
              (Text.fold (rel.cell name record).castString).toList) := by
  obtain ⟨ids, hids, hsearch⟩ := ofQuery_of_valid hnames hquery
  refine ⟨_, hsearch, fun rel record hnul => ?_⟩
  by_cases hall : Text.trim query = "" ∨ columns = []
  · have hcond : ((Text.trim query).isEmpty || columns.isEmpty) = true := by
      rw [Bool.or_eq_true, String.isEmpty_iff, List.isEmpty_iff]
      exact hall
    rw [if_pos hcond, ← or_assoc]
    exact ⟨fun _ => Or.inl hall, fun _ => rfl⟩
  · have hcond : ¬((Text.trim query).isEmpty || columns.isEmpty) = true := by
      rw [Bool.or_eq_true, String.isEmpty_iff, List.isEmpty_iff]
      exact hall
    rw [if_neg hcond, ← or_assoc, or_iff_right hall, finds]
    dsimp only
    rw [Condition.acceptsAt_iff]
    dsimp only
    rw [hids]
    refine exists_congr fun name => and_congr_right fun hname => ?_
    exact Condition.acceptsCell_iff ids _ (hnul name hname)

/-- Wildcards and a backslash are found where they stand, in any case and with any accents, and
match nothing else. -/
theorem finds_wildcards_literally :
    (∀ name ∈ ["Tipo", "Nota"], Identifier.fault? name = none) ∧
      checkSearchText " É 50%_\\ " = .ok () ∧
      ∃ search, ofQuery ["Tipo", "Nota"] " É 50%_\\ " = .ok search ∧
        search.finds
          { columns := [⟨"Tipo", ""⟩, ⟨"Nota", "TEXT"⟩], records := [], numbered := true }
          ⟨1, [.null, .ofString "CAFE 50%_\\ off"]⟩ = true ∧
        ¬search.finds
          { columns := [⟨"Tipo", ""⟩, ⟨"Nota", "TEXT"⟩], records := [], numbered := true }
          ⟨2, [.null, .ofString "café 500\\ off"]⟩ = true := by
  obtain ⟨search, hsearch, hfinds⟩ := finds_iff_folded_infix ["Tipo", "Nota"] " É 50%_\\ "
    (by decide +kernel) (by decide +kernel)
  refine ⟨by decide +kernel, by decide +kernel, search, hsearch, ?_, ?_⟩
  · exact (hfinds _ _ (by decide +kernel)).mpr (by decide +kernel)
  · exact (not_congr (hfinds _ _ (by decide +kernel))).mpr (by decide +kernel)

/-- A search in no columns finds a record for a text that none of them contains. -/
theorem finds_in_no_columns :
    (∀ name ∈ ([] : List String), Identifier.fault? name = none) ∧
      checkSearchText "x" = .ok () ∧
      ∃ search, ofQuery [] "x" = .ok search ∧
        ¬(search.finds { columns := [⟨"a", ""⟩], records := [], numbered := true }
            ⟨1, [.null]⟩ = true ↔
          Text.trim "x" = "" ∨ ∃ name ∈ ([] : List String),
            (Text.fold (Text.trim "x")).toList <:+: (Text.fold
              (Relation.cell { columns := [⟨"a", ""⟩], records := [], numbered := true } name
                ⟨1, [.null]⟩).castString).toList) := by
  refine ⟨by simp, by decide +kernel, all, rfl, fun h => ?_⟩
  rcases h.mp rfl with hblank | ⟨name, hname, -⟩
  · exact absurd hblank (by decide +kernel)
  · simp at hname

end Search

end TableExplorer
