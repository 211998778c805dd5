import TableExplorer.Dashboard.Attachments
import TableExplorer.Proofs.Dataset.CellOrder
import TableExplorer.Proofs.Dataset.Names

/-!
Attachment coverage.  A record is attached if its identifier equals that of a row of the attachment
table.  Identifiers are equal as statements compare cells: nothing equals nothing, texts are read as
numbers if either column holds numbers, and the collation is that of the attachment table's column.

* `Cell.Equals`: equality in statements; `Cell.sameAs_iff`: cells are compared by it.
* `IsAttached`: the record has a row in the attachment table; `hasAttachment_iff`: **the check finds
  these records**, unless the base table is hidden.
* `exists_of_attachmentCoverage?`: what a coverage is made of.
-/

namespace TableExplorer

/-- Two cells are equal in a statement, in which texts are read as numbers if `numeric`: there is
something in both, and the collation does not tell them apart. -/
def Cell.Equals (numeric : Bool) (collation : Collation) (a b : Cell) : Prop :=
  a.isNull = false ∧ b.isNull = false ∧
    if numeric then collation.Tied (Affinity.applyNumeric a) (Affinity.applyNumeric b)
    else collation.Tied a b

instance (numeric : Bool) (collation : Collation) (a b : Cell) :
    Decidable (Cell.Equals numeric collation a b) :=
  inferInstanceAs (Decidable (_ ∧ _ ∧ _))

/-- Cells are compared by their equality. -/
lemma Cell.sameAs_iff {numeric : Bool} {collation : Collation} {a b : Cell} :
    a.sameAs numeric collation b = true ↔ Equals numeric collation a b := by
  rw [sameAs, Equals, Bool.and_eq_true, Bool.and_eq_true, Bool.not_eq_true', Bool.not_eq_true',
    beq_iff_eq, and_assoc]
  refine and_congr_right fun _ => and_congr_right fun _ => ?_
  cases numeric <;> exact compare_eq_eq_iff

/-- One of two columns holds numbers. -/
def holdNumbers (base attachments : Relation) (recordId foreignId : String) : Bool :=
  (attachments.affinityOf (attachments.reference foreignId)).isNumeric ||
    (base.affinityOf (base.reference recordId)).isNumeric

/-- The record of the base table has a row in the attachment table. -/
def IsAttached (base attachments : Relation) (recordId foreignId : String) (record : Record) :
    Prop :=
  ∃ row ∈ attachments.records, Cell.Equals (holdNumbers base attachments recordId foreignId)
    (attachments.collation foreignId) (attachments.cell foreignId row) (base.cell recordId record)

instance (base attachments : Relation) (recordId foreignId : String) :
    DecidablePred (IsAttached base attachments recordId foreignId) := fun _ =>
  inferInstanceAs (Decidable (∃ row ∈ attachments.records, _))

section

variable {table recordId foreignId : Identifier} {base attachments : Relation}

/-- **The check finds the records that are attached**, unless the base table is hidden. -/
lemma hasAttachment_iff (h : isHidden table recordId attachments = false) {record : Record} :
    hasAttachment table recordId foreignId base attachments record = true ↔
      IsAttached base attachments recordId.name foreignId.name record := by
  rw [hasAttachment, h]
  dsimp only
  rw [List.any_eq_true]
  exact exists_congr fun row => and_congr_right fun _ => Cell.sameAs_iff

/-- Each record is covered or is not. -/
lemma covered_add_uncovered {records : List Record} {coverage : AttachmentCoverage}
    (h : coverageOf table recordId foreignId base attachments records = coverage) :
    coverage.covered + coverage.uncovered = records.length := by
  rw [← h]
  exact Nat.add_sub_cancel' List.countP_le_length

/-- The records that are attached are covered, and the others are not. -/
lemma coverageOf_eq (h : isHidden table recordId attachments = false) (records : List Record) :
    coverageOf table recordId foreignId base attachments records =
      ⟨records.countP fun r => IsAttached base attachments recordId.name foreignId.name r,
        records.countP fun r => ¬IsAttached base attachments recordId.name foreignId.name r⟩ := by
  have hcovered : records.countP (hasAttachment table recordId foreignId base attachments) =
      records.countP fun r => IsAttached base attachments recordId.name foreignId.name r :=
    List.countP_congr fun r _ => by rw [hasAttachment_iff h, decide_eq_true_iff]
  have hall := List.length_eq_countP_add_countP
    (fun r => decide (IsAttached base attachments recordId.name foreignId.name r)) (l := records)
  have hothers : records.countP (fun r =>
      ¬decide (IsAttached base attachments recordId.name foreignId.name r) = true) =
      records.countP fun r => ¬IsAttached base attachments recordId.name foreignId.name r :=
    List.countP_congr fun r _ => by simp
  rw [hothers] at hall
  rw [coverageOf, hcovered, hall, Nat.add_sub_cancel_left]

end

/-- The base table is not hidden if it is called otherwise, or if the attachment table gives the
name of the record identifier no meaning. -/
lemma isHidden_eq_false_iff {table recordId : Identifier} {attachments : Relation} :
    isHidden table recordId attachments = false ↔
      (sameName table.name attachmentAlias = true →
        ∃ text, attachments.reference recordId.name = .literal text) := by
  rw [isHidden]
  cases sameName table.name attachmentAlias with
  | false => simp
  | true =>
      cases hreference : attachments.reference recordId.name with
      | literal text => exact ⟨fun _ _ => ⟨text, rfl⟩, fun _ => rfl⟩
      | column index => simp
      | recordNumber => simp

/-! ### The attachment table -/

/-- A coverage is that of the attachment table of the table, by its column of record identifiers. -/
lemma exists_of_attachmentCoverage? {contents : Contents} {config : Config} {table : Identifier}
    {base : Relation} {records : List Record} {recordId : String} {coverage : AttachmentCoverage}
    (h : attachmentCoverage? contents config table base records recordId = .ok (some coverage)) :
    ∃ (source own foreign : Identifier) (columns : List Column) (attachments : Relation),
      contents.attachmentTable? config table.name = .ok (some source.name) ∧
      contents.columns source.name = .ok columns ∧
      pickColumn? (columnNames columns) config.roles.recordId = some foreign.name ∧
      own.name = recordId ∧ contents.source source = .ok attachments ∧
      coverageOf table own foreign base attachments records = coverage := by
  obtain ⟨attachmentTable?, htable, h⟩ := Result.bind_eq_ok_iff.mp h
  cases attachmentTable? with
  | none => cases h
  | some attachmentTable =>
      obtain ⟨columns, hcolumns, h⟩ := Result.bind_eq_ok_iff.mp h
      split at h
      · cases h
      · rename_i foreignId hforeign
        obtain ⟨source, hsource, h⟩ := Result.bind_eq_ok_iff.mp h
        obtain ⟨foreign, hname, h⟩ := Result.bind_eq_ok_iff.mp h
        obtain ⟨own, hown, h⟩ := Result.bind_eq_ok_iff.mp h
        obtain ⟨attachments, hfound, h⟩ := Result.bind_eq_ok_iff.mp h
        have hcoverage := Option.some.inj (Except.ok.inj h)
        rw [← Identifier.ofName_eq_ok_iff.mp hsource] at htable hcolumns
        rw [← Identifier.ofName_eq_ok_iff.mp hname] at hforeign
        exact ⟨source, own, foreign, columns, attachments, htable, hcolumns, hforeign,
          Identifier.ofName_eq_ok_iff.mp hown, hfound, hcoverage⟩

end TableExplorer
