import Mathlib
import TableExplorer.Proofs.Dashboard.Summary

/-!
What a summary counts.  For a table that can be summarised the summary is made, and whenever it is
made, its parts count the records that the search finds:

* `TableSummary.compute_typeCounts`: **the counts by type**, a ranking that adds up to all records;
  each label counts its records, unless a column called `k` puts other records together.
* `TableSummary.compute_monthly`: **the counts by month**, unless a column called `ym` does; where
  the keys are texts of months, the months ascend.
* `TableSummary.compute_attachments`: **the attachment coverage**, unless the table is hidden behind
  the name `att`.

Each statement is followed by a table to which it applies, and by one to which it does not.
-/

namespace TableExplorer

/-- A table of texts. -/
def Table.ofTexts (name : String) (columns : List String) (rows : List (List String)) : Table :=
  Table.insertAll { name := name, columns := columns.map fun column => ⟨column, "TEXT"⟩ }
    (rows.map fun row => row.map Cell.ofString)

namespace TableSummary

variable {d : Dataset} {config : Config} {table query column : String} {rel : Relation}
  {search : Search}

/-! ### Types -/

/-- **The counts by type.**  The summary of a table that can be summarised is made.  Whenever it is
made, the counts are a ranking of different labels and add up to the number of records that are
found, and if the amounts are numbers, the sums have the same labels.  Each label counts its
records, if a column called `k`, should there be one, keeps records of different labels apart. -/
theorem compute_typeCounts (hfound : d.relation? table = some rel)
    (hsearch : Search.ofQuery (columnNames rel.columns) query = .ok search)
    (hcolumn : (TableRoles.resolve config table (columnNames rel.columns)).recordType? =
      some column) :
    let matching := rel.records.filter (search.finds rel)
    let label (record : Record) : String := (rel.cell column record).typeLabel config
    (Summarizable d config table query rel →
      ∃ summary, compute (.dataset d) config table query = .ok summary) ∧
    ∀ summary, compute (.dataset d) config table query = .ok summary →
      summary.totalRows = matching.length ∧
      IsRanking summary.typeCounts ∧
      (summary.typeCounts.map (·.count)).sum = summary.totalRows ∧
      (summary.amountStyle.isNumeric = true →
        (summary.typeSums.map (·.label)).Perm (summary.typeCounts.map (·.label))) ∧
      (rel.Separates typeName matching label →
        IsTally summary.typeCounts (matching.map label)) := by
  intro matching label
  refine ⟨exists_compute, fun summary hsummary => ?_⟩
  obtain ⟨r⟩ := SummaryReading.exists_of_compute hsummary
  obtain ⟨hrel, hrecords, hroles⟩ := r.selection_eq hfound hsearch
  have htypes := r.types
  rw [hroles, hcolumn, withColumn_some_eq_ok_iff] at htypes
  obtain ⟨id, rfl, htotals⟩ := htypes
  have hsum := TypeTotal.sum_counts_ofSelection htotals
  have hperm := TypeTotal.counts_perm r.totals
  have hnodup : (r.totals.map (·.label)).Nodup := by
    obtain ⟨parts, -, hparts⟩ := TypeTotal.ofSelection_eq_ok_iff.mp htotals
    rw [hparts]
    exact TypeTotal.nodup_combine parts
  rw [r.typeCounts, r.typeSums, r.amounts, r.totalRows, hrecords]
  refine ⟨rfl, TypeTotal.isRanking_counts hnodup, ?_, fun hnumeric => ?_, fun hseparates => ?_⟩
  · rw [(hperm.map _).sum_eq, List.map_map, ← hrecords, ← hsum]
    rfl
  · rw [if_pos hnumeric]
    exact TypeTotal.labels_sums_perm r.totals
  · refine IsTally.perm ?_ hperm
    have htally := TypeTotal.isTally_totals htotals
    rw [hrel, hrecords] at htally
    exact htally hseparates

/-- Types in several spellings, with a number for each record. -/
def spelledTypes : Table :=
  .ofTexts "t" ["Tipo", "k"] [[" A", "1"], ["A", "2"], ["", "3"], ["(no type)", "4"]]

/-- Types are counted by their labels, whatever their spellings, also beside a column called `k`
that is different in each record. -/
theorem typeCounts_of_spelledTypes :
    Dataset.relation? (.ofTables [spelledTypes]) "t" = some spelledTypes.relation ∧
      Search.ofQuery (columnNames spelledTypes.columns) "" = .ok .all ∧
      (TableRoles.resolve {} "t" (columnNames spelledTypes.columns)).recordType? = some "Tipo" ∧
      Summarizable (.ofTables [spelledTypes]) {} "t" "" spelledTypes.relation ∧
      ∃ summary, compute (.dataset (.ofTables [spelledTypes])) {} "t" "" = .ok summary ∧
        IsTally summary.typeCounts ["A", "A", "(no type)", "(no type)"] := by
  have hfound : Dataset.relation? (.ofTables [spelledTypes]) "t" = some spelledTypes.relation := by
    rfl
  have hsearch : Search.ofQuery (columnNames spelledTypes.columns) "" = .ok .all := by rfl
  have hcolumn : (TableRoles.resolve {} "t" (columnNames spelledTypes.columns)).recordType? =
      some "Tipo" := by decide +kernel
  have hsummarizable : Summarizable (.ofTables [spelledTypes]) {} "t" "" spelledTypes.relation := by
    refine { served := ?_, texts := ?_, tables := ?_, topRecords_lt := ?_ }
    · exact
        { table_valid := by decide +kernel
          found := hfound
          columns_valid := by decide +kernel
          columns_ne_nil := by decide +kernel
          query_valid := by decide +kernel
          sort_known := fun column hsort => nomatch hsort
          searchable := ⟨rfl, .inl (by decide +kernel)⟩ }
    · decide +kernel
    · decide +kernel
    · decide +kernel
  obtain ⟨hmade, hcounts⟩ := compute_typeCounts hfound hsearch hcolumn
  obtain ⟨summary, hsummary⟩ := hmade hsummarizable
  obtain ⟨-, -, -, -, htally⟩ := hcounts summary hsummary
  refine ⟨hfound, hsearch, hcolumn, hsummarizable, summary, hsummary, ?_⟩
  have hlabels : ((spelledTypes.records.filter (Search.all.finds spelledTypes.relation)).map
      fun record => (spelledTypes.relation.cell "Tipo" record).typeLabel {}) =
        ["A", "A", "(no type)", "(no type)"] := by decide +kernel
  rw [← hlabels]
  refine htally fun index hindex => ?_
  have hk : spelledTypes.relation.columnIndex? typeName = some 1 := by decide +kernel
  obtain rfl : 1 = index := Option.some.inj (hk.symm.trans hindex)
  decide +kernel

/-- Two types beside a column called `k` that is the same in both records. -/
def typesUnderK : Table := .ofTexts "t" ["Tipo", "k"] [["A", "1"], ["B", "1"]]

/-- The groups are those of a column called `k`, so two types are counted under one label. -/
theorem typeCounts_of_typesUnderK :
    ∃ summary, compute (.dataset (.ofTables [typesUnderK])) {} "t" "" = .ok summary ∧
      summary.typeCounts = [⟨"A", 2⟩] ∧
      ¬IsTally summary.typeCounts (typesUnderK.records.map fun record =>
        (typesUnderK.relation.cell "Tipo" record).typeLabel {}) := by
  have hcounts : (compute (.dataset (.ofTables [typesUnderK])) {} "t" "").map (·.typeCounts) =
      .ok [⟨"A", 2⟩] := by decide +kernel
  obtain ⟨summary, hsummary, hcounts⟩ := Result.map_eq_ok_iff.mp hcounts
  refine ⟨summary, hsummary, hcounts, fun htally => ?_⟩
  have hlabel : "B" ∈ typesUnderK.records.map fun record =>
      (typesUnderK.relation.cell "Tipo" record).typeLabel {} := by decide +kernel
  have hmem := (htally.occurs "B").mpr hlabel
  rw [hcounts] at hmem
  exact absurd hmem (by decide)

/-! ### Months -/

/-- **The counts by month.**  The summary of a table that can be summarised is made.  Whenever it is
made, the buckets of a month count the records of the month, and records without a month are counted
nowhere, if a column called `ym`, should there be one, keeps records of different keys apart.  If it
groups the records exactly as their keys do, and the keys of months are their texts, the buckets are
the months in the order of the calendar, each once and with the number of its records. -/
theorem compute_monthly (hfound : d.relation? table = some rel)
    (hsearch : Search.ofQuery (columnNames rel.columns) query = .ok search)
    (hcolumn : (TableRoles.resolve config table (columnNames rel.columns)).date? = some column) :
    let matching := rel.records.filter (search.finds rel)
    (Summarizable d config table query rel →
      ∃ summary, compute (.dataset d) config table query = .ok summary) ∧
    ∀ summary, compute (.dataset d) config table query = .ok summary →
      (rel.Separates monthName matching (rel.monthKey? column) →
        (∀ text, ((summary.monthly.filter fun b => b.month == text).map (·.count)).sum =
          matching.countP fun record => rel.monthText? column record = some text) ∧
        (summary.monthly.map (·.count)).sum =
          matching.countP fun record => (rel.month? column record).isSome) ∧
      (rel.GroupsAs monthName matching (rel.monthKey? column) →
        rel.WritesMonths column matching →
        ∃ months, IsMonthAxis summary.monthly months (rel.month? column) matching) := by
  intro matching
  refine ⟨exists_compute, fun summary hsummary => ?_⟩
  obtain ⟨r⟩ := SummaryReading.exists_of_compute hsummary
  obtain ⟨hrel, hrecords, hroles⟩ := r.selection_eq hfound hsearch
  have hmonthly := r.monthly
  rw [hroles, hcolumn, withColumn_some_eq_ok_iff] at hmonthly
  obtain ⟨id, rfl, hbuckets⟩ := hmonthly
  have hsum := Selection.sum_counts_buckets hbuckets
  have haxis := fun hgroups hwrites =>
    Selection.exists_isMonthAxis hgroups hwrites hbuckets
  rw [hrel, hrecords] at hsum haxis
  refine ⟨fun hseparates => ⟨fun text => ?_, ?_⟩, haxis⟩
  · rw [hsum hseparates fun month => month == text]
    refine List.countP_congr fun record _ => ?_
    rw [decide_eq_true_iff, Option.any_eq_true]
    constructor
    · rintro ⟨month, hmonth, heq⟩
      rw [hmonth, beq_iff_eq.mp heq]
    · intro hmonth
      exact ⟨text, hmonth, beq_self_eq_true text⟩
  · have hall := hsum hseparates fun _ => true
    rw [List.filter_true] at hall
    rw [hall]
    refine List.countP_congr fun record _ => ?_
    rw [Relation.monthText?]
    cases rel.month? id.name record <;> exact Iff.rfl

/-- Dates of two months, and a date that is none. -/
def datedRecords : Table :=
  .ofTexts "x_contratos_menores" ["Estado"]
    [["06/02/2024"], ["05/01/2024"], ["pendente"], ["07/01/2024"]]

/-- Dates are counted by their months, in the order of the calendar. -/
theorem monthly_of_datedRecords :
    Dataset.relation? (.ofTables [datedRecords]) "x_contratos_menores" =
        some datedRecords.relation ∧
      Search.ofQuery (columnNames datedRecords.columns) "" = .ok .all ∧
      (TableRoles.resolve {} "x_contratos_menores" (columnNames datedRecords.columns)).date? =
        some "Estado" ∧
      Summarizable (.ofTables [datedRecords]) {} "x_contratos_menores" "" datedRecords.relation ∧
      ∃ summary,
        compute (.dataset (.ofTables [datedRecords])) {} "x_contratos_menores" "" = .ok summary ∧
        (summary.monthly.map (·.count)).sum = 3 ∧
        ∃ months, IsMonthAxis summary.monthly months (datedRecords.relation.month? "Estado")
          datedRecords.records := by
  have hfound : Dataset.relation? (.ofTables [datedRecords]) "x_contratos_menores" =
      some datedRecords.relation := by rfl
  have hsearch : Search.ofQuery (columnNames datedRecords.columns) "" = .ok .all := by rfl
  have hcolumn : (TableRoles.resolve {} "x_contratos_menores"
      (columnNames datedRecords.columns)).date? = some "Estado" := by decide +kernel
  have hsummarizable : Summarizable (.ofTables [datedRecords]) {} "x_contratos_menores" ""
      datedRecords.relation := by
    refine { served := ?_, texts := ?_, tables := ?_, topRecords_lt := ?_ }
    · exact
        { table_valid := by decide +kernel
          found := hfound
          columns_valid := by decide +kernel
          columns_ne_nil := by decide +kernel
          query_valid := by decide +kernel
          sort_known := fun column hsort => nomatch hsort
          searchable := ⟨rfl, .inl (by decide +kernel)⟩ }
    · decide +kernel
    · decide +kernel
    · decide +kernel
  have hwritten : ∀ record ∈ datedRecords.records,
      (datedRecords.relation.month? "Estado" record).all fun m =>
        datedRecords.relation.monthKey? "Estado" record = some m.text.toUTF8 := by
    decide +kernel
  have hnone : datedRecords.relation.columnIndex? monthName = none := by decide +kernel
  obtain ⟨hmade, hcounts⟩ := compute_monthly hfound hsearch hcolumn
  obtain ⟨summary, hsummary⟩ := hmade hsummarizable
  obtain ⟨hbuckets, haxis⟩ := hcounts summary hsummary
  refine ⟨hfound, hsearch, hcolumn, hsummarizable, summary, hsummary, ?_, ?_⟩
  · rw [(hbuckets fun index hindex => nomatch hnone.symm.trans hindex).2]
    decide +kernel
  · refine haxis (fun index hindex => nomatch hnone.symm.trans hindex) fun record hrecord m hm => ?_
    have hall := hwritten record (List.mem_filter.mp hrecord).1
    rw [hm] at hall
    exact of_decide_eq_true hall

/-- Dates of two months beside a column called `ym` that is the same in both records. -/
def monthsUnderYm : Table :=
  .ofTexts "x_contratos_menores" ["Estado", "ym"] [["05/01/2024", "1"], ["06/02/2024", "1"]]

/-- The groups are those of a column called `ym`, so two months are counted as one. -/
theorem monthly_of_monthsUnderYm :
    ∃ summary,
      compute (.dataset (.ofTables [monthsUnderYm])) {} "x_contratos_menores" "" = .ok summary ∧
      summary.monthly = [⟨"2024-01", 2, none⟩] ∧
      ¬∃ months, IsMonthAxis summary.monthly months (monthsUnderYm.relation.month? "Estado")
        monthsUnderYm.records := by
  have hmonthly : (compute (.dataset (.ofTables [monthsUnderYm])) {} "x_contratos_menores" "").map
      (·.monthly) = .ok [⟨"2024-01", 2, none⟩] := by decide +kernel
  obtain ⟨summary, hsummary, hmonthly⟩ := Result.map_eq_ok_iff.mp hmonthly
  refine ⟨summary, hsummary, hmonthly, fun ⟨months, haxis⟩ => ?_⟩
  have hoccurs : ∃ record ∈ monthsUnderYm.records,
      monthsUnderYm.relation.month? "Estado" record = some ⟨2024, 2⟩ := by decide +kernel
  have hmem := List.mem_map_of_mem (f := Month.text) ((haxis.occurs _).mpr hoccurs)
  rw [← haxis.texts, hmonthly] at hmem
  exact absurd hmem (by decide +kernel)

/-- Keys that are no texts of months may denote one month, which then has two buckets. -/
example :
    let records := Table.ofTexts "x_contratos_menores" ["Estado"] [["3/2024"], ["03/2024"]]
    (compute (.dataset (.ofTables [records])) {} "x_contratos_menores" "").map (·.monthly) =
      .ok [⟨"2024-03", 1, none⟩, ⟨"2024-03", 1, none⟩] := by
  decide +kernel

/-! ### Attachments -/

/-- **The attachment coverage.**  A coverage of a summary is that of the table's attachment table by
its column of record identifiers, and covers each record that is found or does not.  The records
that are attached are covered, however many rows they have, and the others are not, unless the table
is hidden: it is called `att`, and the attachment table gives the name of the record identifier a
meaning. -/
theorem compute_attachments {summary : TableSummary} {coverage : AttachmentCoverage}
    (hsummary : compute (.dataset d) config table query = .ok summary)
    (hcoverage : summary.attachments? = some coverage) :
    ∃ (rel attachments : Relation) (search : Search) (recordId attachmentTable foreignId : String),
      d.relation? table = some rel ∧
      Search.ofQuery (columnNames rel.columns) query = .ok search ∧
      (TableRoles.resolve config table (columnNames rel.columns)).recordId? = some recordId ∧
      Contents.attachmentTable? (.dataset d) config table = .ok (some attachmentTable) ∧
      d.relation? attachmentTable = some attachments ∧
      pickColumn? (columnNames attachments.columns) config.roles.recordId = some foreignId ∧
      let matching := rel.records.filter (search.finds rel)
      summary.totalRows = matching.length ∧
      coverage.covered + coverage.uncovered = summary.totalRows ∧
      ((sameName table attachmentAlias = true →
          ∃ text, attachments.reference recordId = .literal text) →
        coverage.covered =
          matching.countP (IsAttached rel attachments recordId foreignId) ∧
        coverage.uncovered =
          matching.countP fun record => ¬IsAttached rel attachments recordId foreignId record) := by
  obtain ⟨r⟩ := SummaryReading.exists_of_compute hsummary
  obtain ⟨hrel, hrecords, hroles⟩ := r.selection_eq r.found r.searched
  have hattachments := r.attachments
  rw [hcoverage, Selection.coverage?] at hattachments
  split at hattachments
  · rename_i recordId hrecordId
    obtain ⟨source, own, foreign, columns, attachments, htable, hcolumns, hforeign, rfl, hsource,
      hcounts⟩ := exists_of_attachmentCoverage? hattachments
    obtain ⟨hfound, -⟩ := Contents.source_eq_ok_iff.mp hsource
    obtain ⟨rfl, -⟩ := (Contents.columns_eq_ok_iff source.valid hfound).mp hcolumns
    rw [r.named] at htable
    rw [hroles] at hrecordId
    refine ⟨r.selection.relation, attachments, r.search, own.name, source.name, foreign.name,
      r.found, r.searched, hrecordId, htable, hfound, hforeign, ?_, ?_, fun hshown => ?_⟩
    · rw [r.totalRows, hrecords]
    · rw [r.totalRows]
      exact covered_add_uncovered hcounts
    · rw [← r.named] at hshown
      rw [coverageOf_eq (isHidden_eq_false_iff.mpr hshown), hrecords] at hcounts
      rw [← hcounts]
      exact ⟨rfl, rfl⟩
  · cases hattachments

/-- Three records, one of them without an identifier. -/
def identifiedRecords : Table :=
  Table.insertAll { name := "Obras", columns := [⟨"Expediente", "TEXT"⟩] }
    [[.ofString "E1"], [.ofString "E2"], [.null]]

/-- Two attachments of one record. -/
def attachedFiles : Table := .ofTexts "Obras_files" ["Expediente"] [["E1"], ["E1"]]

/-- A record with two attachments is covered once, and a record without an identifier is not. -/
theorem attachments_of_identifiedRecords :
    ∃ summary coverage,
      compute (.dataset (.ofTables [identifiedRecords, attachedFiles])) {} "Obras" "" =
        .ok summary ∧
      summary.attachments? = some coverage ∧
      coverage.covered + coverage.uncovered = summary.totalRows ∧
      coverage.covered = 1 ∧ coverage.uncovered = 2 := by
  have hmade : (compute (.dataset (.ofTables [identifiedRecords, attachedFiles])) {} "Obras" "").map
      (·.attachments?.isSome) = .ok true := by decide +kernel
  obtain ⟨summary, hsummary, hsome⟩ := Result.map_eq_ok_iff.mp hmade
  obtain ⟨coverage, hcoverage⟩ := Option.isSome_iff_exists.mp hsome
  obtain ⟨rel, attachments, search, recordId, attachmentTable, foreignId, hrel, hsearch, hrecordId,
    htable, hattachments, hforeign, -, hsum, hexact⟩ := compute_attachments hsummary hcoverage
  refine ⟨summary, coverage, hsummary, hcoverage, hsum, ?_⟩
  obtain rfl : identifiedRecords.relation = rel := Option.some.inj hrel
  obtain rfl : Search.all = search := Except.ok.inj hsearch
  have hid : (TableRoles.resolve {} "Obras" (columnNames identifiedRecords.columns)).recordId? =
      some "Expediente" := by decide +kernel
  obtain rfl : "Expediente" = recordId := Option.some.inj (hid.symm.trans hrecordId)
  have hfiles :
      Contents.attachmentTable? (.dataset (.ofTables [identifiedRecords, attachedFiles])) {}
        "Obras" = .ok (some "Obras_files") := by decide +kernel
  obtain rfl : "Obras_files" = attachmentTable :=
    Option.some.inj (Except.ok.inj (hfiles.symm.trans htable))
  obtain rfl : attachedFiles.relation = attachments := Option.some.inj hattachments
  have hforeignId : pickColumn? (columnNames attachedFiles.columns)
      ({} : Config).roles.recordId = some "Expediente" := by decide +kernel
  obtain rfl : "Expediente" = foreignId := Option.some.inj (hforeignId.symm.trans hforeign)
  obtain ⟨hcovered, huncovered⟩ := hexact fun hhidden => absurd hhidden (by decide)
  rw [hcovered, huncovered]
  exact ⟨by decide +kernel, by decide +kernel⟩

/-- A table called `att` with two records. -/
def hiddenRecords : Table := .ofTexts "att" ["Expediente"] [["E1"], ["E2"]]

/-- One attachment of the first record. -/
def hidingFiles : Table := .ofTexts "att_files" ["Expediente"] [["E1"]]

/-- A table called `att` is hidden behind its attachment table, so a record without an attachment is
covered. -/
theorem attachments_of_hiddenRecords :
    ∃ summary,
      compute (.dataset (.ofTables [hiddenRecords, hidingFiles])) {} "att" "" = .ok summary ∧
      summary.attachments? = some ⟨2, 0⟩ ∧
      ¬2 = hiddenRecords.records.countP
        (IsAttached hiddenRecords.relation hidingFiles.relation "Expediente" "Expediente") := by
  have hcoverage : (compute (.dataset (.ofTables [hiddenRecords, hidingFiles])) {} "att" "").map
      (·.attachments?) = .ok (some ⟨2, 0⟩) := by decide +kernel
  obtain ⟨summary, hsummary, hcoverage⟩ := Result.map_eq_ok_iff.mp hcoverage
  exact ⟨summary, hsummary, hcoverage, by decide +kernel⟩

end TableSummary

end TableExplorer
