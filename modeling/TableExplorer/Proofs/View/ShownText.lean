import TableExplorer.Proofs.Numeral.CastText
import TableExplorer.Proofs.Text.Bytes
import TableExplorer.Proofs.Text.FoldedPieces
import TableExplorer.Proofs.View.Pagination
import TableExplorer.Proofs.View.WideTables

/-!
Searching for what is shown.  A search looks into cells cast to text, and not into the text that a
page shows for them.  For integers, texts and blobs the two are the same text, and a search for it
finds the cell whatever its accents, its case and the blanks at its ends; a real is found if it is
short, that is if its text also stands in its cast.

* `Binary64.fold_toText_infix_iff`: **a real is found by its text** if and only if it is short.
* `Condition.acceptsCell_display_iff`: **a cell is found by the text that is shown for it** if and
  only if its value is findable.
* `loadPage_display`: **a search finds what is shown**; `notFound_of_sixteenPlaces` is a real that
  it does not find, beside a text in a table that is too wide.
-/

namespace TableExplorer

namespace Binary64

variable {x : Binary64} {m : Magnitude} {negative : Bool}

/-! ### Numerals and folding -/

/-- The characters of numerals are ASCII characters other than capitals, blanks and NUL. -/
lemma isNumeral_spec {c : Char} (h : Text.isNumeral c = true) :
    (c.toNat < 0x80 ∧ c.toLower = c) ∧ Text.isBlank c = false ∧ c ≠ '\x00' := by
  have hascii : c.toNat < 0x80 := by
    simp only [Text.isNumeral, Bool.or_eq_true, beq_iff_eq] at h
    rcases h with (((hdigit | rfl) | rfl) | rfl) | rfl
    · have hnine : '9'.toNat = 0x39 := rfl
      have hle := (Char.isDigit_iff_toNat.mp hdigit).2
      omega
    all_goals decide
  refine Text.forall_char_of_lt (P := fun c => Text.isNumeral c = true →
    (c.toNat < 0x80 ∧ c.toLower = c) ∧ Text.isBlank c = false ∧ c ≠ '\x00') ?_ hascii h
  decide +kernel

/-- A sign in front of the characters of numerals is one more of them. -/
lemma isNumeral_signText_append {text : List Char} (h : ∀ c ∈ text, Text.isNumeral c = true) :
    ∀ c ∈ (signText negative).toList ++ text, Text.isNumeral c = true := by
  rw [List.forall_mem_append]
  refine ⟨?_, h⟩
  cases negative with
  | false => exact List.forall_mem_nil _
  | true => exact List.forall_mem_singleton.mpr (by decide)

/-- A text of the characters of numerals is its own folded text, trimmed or not. -/
lemma fold_numeral {s : String} (h : ∀ c ∈ s.toList, Text.isNumeral c = true) :
    Text.fold s = s ∧ Text.trim s = s := by
  constructor
  · rw [Text.fold, Text.foldChars_eq_self fun c hc => (isNumeral_spec (h c hc)).1,
      String.ofList_toList]
  · rw [Text.trim, Text.trimEnds_eq_self fun c hc => (isNumeral_spec (h c hc)).2.1,
      String.ofList_toList]

/-- The text of a finite number other than zero is made of the characters of numerals. -/
lemma isNumeral_toText (negative : Bool) (hpos : 0 < m.quanta) :
    ∀ c ∈ (toText (.finite negative m)).toList, Text.isNumeral c = true := by
  rw [toList_toText negative hpos]
  exact isNumeral_signText_append (ScaledDigits.isNumeral_text _)

/-- The cast of a finite number other than zero is made of the characters of numerals. -/
lemma isNumeral_castText (negative : Bool) (hpos : 0 < m.quanta) :
    ∀ c ∈ (castText (.finite negative m)).toList, Text.isNumeral c = true := by
  rw [toList_castText negative hpos, Magnitude.castText_eq]
  exact isNumeral_signText_append (ScaledDigits.isNumeral_castText _)

/-- **A real is found by its text** if and only if it is short. -/
theorem fold_toText_infix_iff (x : Binary64) :
    (Text.fold (Text.trim x.toText)).toList <:+: (Text.fold x.castText).toList ↔ x.IsShort := by
  cases x with
  | nan =>
      have hnone : ¬(Text.fold (Text.trim (toText nan))).toList <:+:
          (Text.fold (castText nan)).toList := by
        decide +kernel
      exact iff_of_false hnone not_isShort_nan
  | infinite negative =>
      have hfound : (Text.fold (Text.trim (toText (infinite negative)))).toList <:+:
          (Text.fold (castText (infinite negative))).toList := by
        cases negative <;> decide +kernel
      exact iff_of_true hfound (Or.inr (Or.inl ⟨negative, rfl⟩))
  | finite negative m =>
      rcases Nat.eq_zero_or_pos m.quanta with hzero | hpos
      · rw [isShort_zero_iff hzero, toText, castText, if_pos hzero, if_pos hzero]
        cases negative <;> decide +kernel
      · obtain ⟨hfold, htrim⟩ := fold_numeral (isNumeral_toText negative hpos)
        rw [htrim, hfold, (fold_numeral (isNumeral_castText negative hpos)).1,
          toText_infix_castText_iff hpos]

/-- The cast of a real has no NUL character. -/
lemma hasNul_castText (x : Binary64) : hasNul x.castText = false := by
  cases x with
  | nan => rfl
  | infinite negative => cases negative <;> decide +kernel
  | finite negative m =>
      rcases Nat.eq_zero_or_pos m.quanta with hzero | hpos
      · rw [castText, if_pos hzero]
        decide +kernel
      · rw [← Bool.not_eq_true, hasNul_iff]
        exact fun hmem => (isNumeral_spec (isNumeral_castText negative hpos _ hmem)).2.2 rfl

end Binary64

/-! ### Cells -/

/-- The values that a search for the text shown finds in their own cells: all but the reals that
are not short. -/
def Value.IsFindable : Value → Prop
  | .real x => x.IsShort
  | _ => True

/-- A text that can be searched for has no NUL character. -/
lemma hasNul_of_checkSearchText {s : String} (h : checkSearchText s = .ok ()) :
    hasNul s = false := by
  rw [checkSearchText] at h
  split at h
  · cases h
  · split at h
    · cases h
    · rename_i hnul
      exact Bool.eq_false_iff.mpr hnul

/-- A cell other than a real is cast to the text that is shown. -/
lemma Cell.castString_eq_display {cell : Cell} (h : ∀ x, cell ≠ .real x) :
    cell.castString = cell.read.display := by
  cases cell with
  | null => rfl
  | integer i => exact Text.Utf8.decode_toUTF8 _
  | real x => exact absurd rfl (h x)
  | text bytes => rfl
  | blob bytes => rfl

/-- **A cell is found by the text that is shown for it** if and only if its value is findable. -/
theorem Condition.acceptsCell_display_iff (ids : List Identifier) {cell : Cell}
    (h : checkSearchText cell.read.display = .ok ()) :
    acceptsCell ⟨ids, Search.patternOf (Text.trim cell.read.display)⟩ cell = true ↔
      cell.read.IsFindable := by
  by_cases hreal : ∃ x, cell = .real x
  · obtain ⟨x, rfl⟩ := hreal
    have hcast : Cell.castString (.real x) = x.castText := Text.Utf8.decode_toUTF8 _
    rw [acceptsCell_iff ids _ (hcast ▸ x.hasNul_castText), hcast]
    exact x.fold_toText_infix_iff
  · have hother : ∀ x, cell ≠ .real x := fun x heq => hreal ⟨x, heq⟩
    have hcast := Cell.castString_eq_display hother
    rw [acceptsCell_iff ids _ (hcast ▸ hasNul_of_checkSearchText h), hcast]
    have hfindable : cell.read.IsFindable := by
      cases cell with
      | real x => exact absurd rfl (hother x)
      | _ => trivial
    exact iff_of_true (Text.fold_trim_isInfix (List.infix_refl _)) hfindable

/-! ### Pages -/

/-- A record is found by the text that is shown for one of its cells, if that is findable. -/
lemma Search.finds_display {rel : Relation} {record : Record} {search : Search} {name : String}
    (hnames : ∀ column ∈ columnNames rel.columns, Identifier.fault? column = none)
    (hname : name ∈ columnNames rel.columns)
    (hvalid : checkSearchText (rel.cell name record).read.display = .ok ())
    (hfindable : (rel.cell name record).read.IsFindable)
    (hsearch : ofQuery (columnNames rel.columns) (rel.cell name record).read.display = .ok search) :
    search.finds rel record = true := by
  obtain ⟨ids, _, hmade, hfinds⟩ := finds_iff_accepts hnames hvalid
  obtain rfl := Except.ok.inj (hmade.symm.trans hsearch)
  have haccepts := (Condition.acceptsCell_display_iff ids hvalid).mpr hfindable
  exact (hfinds rel record).mpr (Or.inr (Or.inr ⟨name, hname, haccepts⟩))

namespace TableReading

variable {contents : Contents} {config : Config} {request : TableRequest}

/-- The rows of a reading stand on its pages. -/
lemma exists_loadPage_of_mem (r : TableReading contents config request) {row : Row}
    (hrow : row ∈ r.rows) (size? : Option Nat) : ∃ (n : Int) (page : TablePage),
      loadPage contents config { request with page := n, pageSize? := size? } = .ok page ∧
        row ∈ page.rows := by
  rw [← PageWindow.flatMap_slice r.rows (size?.getD config.defaultPageSize)] at hrow
  obtain ⟨i, -, hslice⟩ := List.mem_flatMap.mp hrow
  have hpage := r.loadPage_eq (i + 1) size?
  rw [← r.length_rows] at hpage
  exact ⟨i + 1, _, hpage, hslice⟩

/-- The rows of a reading are the records of the relation that are found, in its columns. -/
lemma mem_rows_iff (r : TableReading contents config request) {row : Row} :
    row ∈ r.rows ↔ ∃ record ∈ r.relation.records, r.view.search.finds r.relation record = true ∧
      row = ⟨(columnNames r.view.columns).map fun name =>
        (name, (r.relation.cell name record).read)⟩ := by
  have hrow : ∀ record, rowOf r.relation r.identifiers record =
      ⟨(columnNames r.view.columns).map fun name =>
        (name, (r.relation.cell name record).read)⟩ := by
    intro record
    rw [← r.projected, List.map_map]
    rfl
  simp only [rows, List.mem_map, records, (OrderClause.arrange_perm _ _ _).mem_iff,
    Search.matching_eq_filter, List.mem_filter, hrow, and_assoc, eq_comm (a := row)]

/-- The columns of a reading are those of its relation. -/
lemma columns_eq {d : Dataset} (r : TableReading (.dataset d) config request) :
    r.view.columns = r.relation.columns := by
  obtain ⟨r', -, hcolumns, -⟩ := exists_of_served r.served config
  have hview : r'.view = r.view := Except.ok.inj (r'.prepared.symm.trans r.prepared)
  rw [← hview, hcolumns]

end TableReading

/-- **A search finds what is shown.**  Let a page show a row, and the row a value whose text can be
searched for, the value being no real or a short one, and the table having no more columns than can
be searched for it.  Then the row is found by this text: whatever the column of the table to sort
by, and whatever the size of a page, some page of the search has it. -/
theorem loadPage_display {contents : Contents} {config : Config} {request : TableRequest}
    {page : TablePage} {row : Row} {name : String} {value : Value}
    (hpage : loadPage contents config request = .ok page) (hrow : row ∈ page.rows)
    (hcell : (name, value) ∈ row.cells) (hvalid : checkSearchText value.display = .ok ())
    (hfits : (Text.trim value.display).isEmpty = true ∨ page.columns.length ≤ Search.maxColumns)
    (hfindable : value.IsFindable) (sort : SortOrder)
    (hsort : ∀ column, sort.column? = some column → hasColumn page.columns column = true)
    (size? : Option Nat) :
    ∃ (n : Int) (found : TablePage),
      loadPage contents config ⟨request.table, value.display, sort, n, size?⟩ = .ok found ∧
        row ∈ found.rows := by
  obtain ⟨r, hcolumns, hrow⟩ := TableReading.exists_of_mem_loadPage hpage hrow
  obtain ⟨record, hrecord, -, rfl⟩ := r.mem_rows_iff.mp hrow
  obtain ⟨_, hname, heq⟩ := List.mem_map.mp hcell
  obtain ⟨rfl, rfl⟩ := Prod.mk.inj heq
  cases contents with
  | unreadable => exact absurd r.found nofun
  | dataset d =>
      have hserved := r.served
      rw [r.columns_eq] at hname hcolumns
      have hserved' : TableRequest.Served ⟨request.table, _, sort, 1, none⟩ d r.relation :=
        ⟨⟨hserved.table_valid, hserved.found, hserved.columns_valid, hserved.columns_ne_nil,
          hvalid, fun column hcolumn => hcolumns ▸ hsort column hcolumn⟩,
          hserved.searchable.readable, hcolumns ▸ hfits⟩
      obtain ⟨r', hrel, hcolumns', hsearch, -⟩ := TableReading.exists_of_served hserved' config
      refine r'.exists_loadPage_of_mem (r'.mem_rows_iff.mpr ⟨record, ?_, ?_, ?_⟩) size?
      · rwa [hrel]
      · rw [hrel]
        exact Search.finds_display hserved.columns_valid hname hvalid hfindable hsearch
      · rw [hrel, hcolumns', r.columns_eq]

/-- A real in a table of its own. -/
def realValue (digits : Nat) (exponent : Int) : Binary64 :=
  Decimal.toBinary64 ⟨false, digits, exponent⟩

/-- A real of five digits is found by its text. -/
theorem loadPage_display_of_fiveDigits :
    (Value.real (realValue 12345 (-1))).display = "1234.5" ∧
      ∃ (n : Int) (found : TablePage),
        loadPage (.dataset (.ofCells [.real (realValue 12345 (-1))])) {}
          ⟨"t", "1234.5", {}, n, none⟩ = .ok found ∧
        ⟨[("a", .real (realValue 12345 (-1)))]⟩ ∈ found.rows := by
  have hdisplay : (Value.real (realValue 12345 (-1))).display = "1234.5" := by decide +kernel
  have hshown : (loadPage (.dataset (.ofCells [.real (realValue 12345 (-1))])) {}
      { table := "t" }).map (fun page => (page.rows, page.columns.length)) =
        .ok ([⟨[("a", .real (realValue 12345 (-1)))]⟩], 1) := by
    decide +kernel
  obtain ⟨page, hpage, hshown⟩ := Result.map_eq_ok_iff.mp hshown
  obtain ⟨hrow, hcolumns⟩ := Prod.mk.inj hshown
  have hfindable : (Value.real (realValue 12345 (-1))).IsFindable := by
    refine Or.inr (Or.inr ⟨⟨false, 12345, -1⟩, by decide, rfl, ?_⟩)
    rw [Decimal.value, signed, abs_of_nonneg (by norm_num)]
    norm_num
  have hvalid : checkSearchText (Value.real (realValue 12345 (-1))).display = .ok () := by
    rw [hdisplay]
    decide +kernel
  have hsort : ∀ column, ({} : SortOrder).column? = some column →
      hasColumn page.columns column = true := by
    intro column h
    cases h
  refine ⟨hdisplay, ?_⟩
  rw [← hdisplay]
  exact loadPage_display hpage (hrow ▸ List.mem_singleton_self _) (List.mem_singleton_self _)
    hvalid (.inr (hcolumns.trans_le (by decide))) hfindable {} hsort none

/-- A page shows the text in a table that is too wide. -/
lemma exists_loadPage_wideTable : ∃ (n : Int) (page : TablePage) (row : Row),
    loadPage (.dataset wideDataset) {} { table := "t", page := n } = .ok page ∧
      row ∈ page.rows ∧ ("Adxudicatario", .text "x") ∈ row.cells := by
  have hserved : TableRequest.Served { table := "t" } wideDataset wideTable.relation :=
    ⟨checked_wideTable (by decide +kernel), rfl, .inl (by decide +kernel)⟩
  obtain ⟨r, hrel, hcolumns, hsearch, -⟩ := TableReading.exists_of_served hserved {}
  obtain ⟨record, hrecord, hcell⟩ := exists_record_wideTable
  have hall : r.view.search = .all := (Except.ok.inj hsearch).symm
  have hrow := r.mem_rows_iff.mpr ⟨record, by rw [hrel, hrecord]; exact List.mem_singleton_self _,
    by rw [hall]; rfl, rfl⟩
  obtain ⟨n, page, hpage, hmem⟩ := r.exists_loadPage_of_mem hrow none
  refine ⟨n, page, _, hpage, hmem, List.mem_map.mpr ⟨"Adxudicatario", ?_, ?_⟩⟩
  · rw [hcolumns]
    exact List.mem_cons_self
  · rw [hrel, hcell]
    rfl

/-- **What is shown and not found.**  A real of sixteen places is shown positionally, but cast to a
text with an exponent, and so it is not found by the text shown.  And a text in a table that is too
wide is shown, but a search for it fails. -/
theorem notFound_of_sixteenPlaces :
    let value := Value.real (realValue 1 15)
    let contents := Contents.dataset (.ofCells [.real (realValue 1 15)])
    ((loadPage contents {} { table := "t" }).map (·.rows) = .ok [⟨[("a", value)]⟩] ∧
      value.display = "1000000000000000" ∧ Text.trim value.display ≠ "" ∧
      checkSearchText value.display = .ok () ∧
      (loadPage contents {} { table := "t", query := value.display }).map
        (fun page => (page.rows, page.window.total)) = .ok ([], 0)) ∧
    (∃ (n : Int) (page : TablePage) (row : Row),
      loadPage (.dataset wideDataset) {} { table := "t", page := n } = .ok page ∧
        row ∈ page.rows ∧ ("Adxudicatario", .text "x") ∈ row.cells) ∧
      checkSearchText (Value.text "x").display = .ok () ∧
      ∀ n : Int, loadPage (.dataset wideDataset) {}
          { table := "t", query := (Value.text "x").display, page := n } =
        .error (.query "Expression tree is too large (maximum depth 1000)") := by
  refine ⟨⟨?_, ?_, ?_, ?_, ?_⟩, exists_loadPage_wideTable, ?_, fun n => (load_wideTable n).1⟩
  all_goals decide +kernel

end TableExplorer
