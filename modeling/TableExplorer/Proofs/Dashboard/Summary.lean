import Mathlib
import TableExplorer.Dashboard.TableSummary
import TableExplorer.Proofs.Dashboard.Coverage
import TableExplorer.Proofs.Dashboard.Months
import TableExplorer.Proofs.Dashboard.TypeCounts
import TableExplorer.Proofs.Dataset.Relations
import TableExplorer.Proofs.View.Reading

/-!
What a summary of a table is made of, and when there is one.

* `SummaryReading`: a summary together with the records that it is made of;
  `SummaryReading.exists_of_compute`: **each summary has a reading**.
* `Relation.IsLegible`: the texts that a summary shows are well-formed;
  `TableSummary.exists_compute_iff`: **the summary is made if and only if they are**.
* `Summarizable`: a table whose summary can be made; `TableSummary.exists_compute`: **its summary is
  made**.
-/

namespace TableExplorer

/-! ### Readings -/

/-- A summary of a table of a dataset under a search, with the records that it is made of. -/
structure SummaryReading (d : Dataset) (config : Config) (table query : String)
    (summary : TableSummary) where
  search : Search
  roles : TableRoles
  selection : Selection
  totals : List TypeTotal
  named : selection.table.name = table
  summarised : summary.table = table
  found : d.relation? table = some selection.relation
  searched : Search.ofQuery (columnNames selection.relation.columns) query = .ok search
  resolved : roles = TableRoles.resolve config table (columnNames selection.relation.columns)
  records : selection.records = search.matching selection.relation
  key : amountKeyOf roles (amountStyleOf (.dataset d) config table roles search) =
    .ok selection.amountKey?
  amounts : selection.amountKey?.isSome = summary.amountStyle.isNumeric
  totalRows : summary.totalRows = selection.records.length
  types : withColumn roles.recordType? (TypeTotal.ofSelection selection config) = .ok totals
  typeCounts : summary.typeCounts = TypeTotal.counts totals
  typeSums : summary.typeSums =
    if selection.amountKey?.isSome then TypeTotal.sums totals else []
  awardees : withColumn roles.awardee? (selection.awardees config) = .ok summary.awardees
  monthly : withColumn roles.date? selection.monthlyBuckets = .ok summary.monthly
  top : selection.topAmounts config roles = .ok summary.topRecords
  attachments : selection.coverage? (.dataset d) config roles = .ok summary.attachments?

/-- What needs a column is done for the column, if there is one. -/
lemma withColumn_some_eq_ok_iff {α : Type} [Inhabited α] {column : String}
    {f : Identifier → Result α} {a : α} :
    withColumn (some column) f = .ok a ↔ ∃ id : Identifier, id.name = column ∧ f id = .ok a := by
  rw [withColumn, Result.bind_eq_ok_iff]
  exact exists_congr fun id => and_congr_left' Identifier.ofName_eq_ok_iff

/-- The identifier of a column that plays a part, if there is such a column. -/
lemma map_name_of_mapM_ofName {column? : Option String} {id? : Option Identifier}
    (h : column?.mapM Identifier.ofName = .ok id?) : id?.map (·.name) = column? := by
  cases column? with
  | none =>
      cases h
      rfl
  | some column =>
      rw [Option.mapM_some] at h
      obtain ⟨id, hid, rfl⟩ := Result.map_eq_ok_iff.mp h
      rw [Option.map_some, Identifier.ofName_eq_ok_iff.mp hid]

/-- The key of the amounts of a table, if there is one, is its amount column in a numeric style. -/
lemma amountKeyOf_cases {roles : TableRoles} {style : AmountStyle} {key? : Option SortKey}
    (h : amountKeyOf roles style = .ok key?) :
    (∃ key, key? = some key ∧ roles.amount? = some key.column.name ∧ style = key.style ∧
        style.isNumeric = true) ∨
      key? = none ∧ (roles.amount? = none ∨ style.isNumeric = false) := by
  rw [amountKeyOf] at h
  cases hcolumn : roles.amount? with
  | none =>
      rw [hcolumn] at h
      exact .inr ⟨(Except.ok.inj h).symm, .inl rfl⟩
  | some column =>
      rw [hcolumn] at h
      cases hnumeric : style.isNumeric with
      | false =>
          rw [hnumeric] at h
          exact .inr ⟨(Except.ok.inj h).symm, .inr rfl⟩
      | true =>
          rw [hnumeric] at h
          obtain ⟨key, hkey, rfl⟩ := Result.map_eq_ok_iff.mp h
          obtain ⟨id, hid, hkey⟩ := Result.bind_eq_ok_iff.mp hkey
          obtain rfl : ⟨id, style⟩ = key := Except.ok.inj hkey
          have hname : id.name = column := Identifier.ofName_eq_ok_iff.mp hid
          exact .inl ⟨_, rfl, congrArg some hname.symm, rfl, rfl⟩

/-- The amounts of a table have a key if they are numbers. -/
lemma isSome_amountKeyOf {roles : TableRoles} {style : AmountStyle} {key? : Option SortKey}
    (h : amountKeyOf roles style = .ok key?) :
    key?.isSome = (roles.amount?.isSome && style.isNumeric) := by
  rcases amountKeyOf_cases h with ⟨key, rfl, hcolumn, -, hnumeric⟩ | ⟨rfl, hcolumn | hnumeric⟩
  · rw [hcolumn, hnumeric]
    rfl
  · rw [hcolumn]
    rfl
  · rw [hnumeric, Bool.and_false]
    rfl

/-- Amounts that are numbers have a column. -/
lemma isNumeric_amountStyleOf (contents : Contents) (config : Config) (table : String)
    (roles : TableRoles) (search : Search) :
    (roles.amount?.isSome && (amountStyleOf contents config table roles search).isNumeric) =
      (amountStyleOf contents config table roles search).isNumeric := by
  rw [amountStyleOf]
  cases roles.amount? with
  | none => rfl
  | some column => rfl

/-- Each summary has a reading; and with another number of records to keep, only these would differ,
or fail. -/
lemma SummaryReading.exists_compute_eq_bind {d : Dataset} {config : Config} {table query : String}
    {summary : TableSummary}
    (h : TableSummary.compute (.dataset d) config table query = .ok summary) :
    ∃ r : SummaryReading d config table query summary, ∀ n,
      TableSummary.compute (.dataset d) { config with topRecords := n } table query =
        r.selection.topAmounts { config with topRecords := n } r.roles >>= fun top =>
          .ok { summary with topRecords := top } := by
  obtain ⟨columns, hcolumns, h⟩ := Result.bind_eq_ok_iff.mp h
  obtain ⟨search, hsearch, h⟩ := Result.bind_eq_ok_iff.mp h
  obtain ⟨totalRows, hcount, h⟩ := Result.bind_eq_ok_iff.mp h
  obtain ⟨key?, hkey, h⟩ := Result.bind_eq_ok_iff.mp h
  obtain ⟨source, hsource, h⟩ := Result.bind_eq_ok_iff.mp h
  obtain ⟨rel, hrel, h⟩ := Result.bind_eq_ok_iff.mp h
  obtain ⟨totals, htotals, h⟩ := Result.bind_eq_ok_iff.mp h
  obtain ⟨awardees, hawardees, h⟩ := Result.bind_eq_ok_iff.mp h
  obtain ⟨monthly, hmonthly, h⟩ := Result.bind_eq_ok_iff.mp h
  obtain ⟨top, htop, h⟩ := Result.bind_eq_ok_iff.mp h
  obtain ⟨coverage?, hcoverage, h⟩ := Result.bind_eq_ok_iff.mp h
  have hsummary := Except.ok.inj h
  have hname := Identifier.ofName_eq_ok_iff.mp hsource
  have hfound : d.relation? table = some rel := hname ▸ (Contents.source_eq_ok_iff.mp hrel).1
  have hvalid : Identifier.fault? table = none := hname ▸ source.valid
  obtain ⟨rfl, -⟩ := (Contents.columns_eq_ok_iff hvalid hfound).mp hcolumns
  have hrows : totalRows = (search.matching rel).length := by
    obtain ⟨_, hname, hcount⟩ := Result.bind_eq_ok_iff.mp hcount
    obtain ⟨_, -, hcount⟩ := Result.bind_eq_ok_iff.mp hcount
    rw [Except.ok.inj (hname.symm.trans hsource), hrel, Result.ok_bind] at hcount
    exact (Except.ok.inj hcount).symm
  have hamounts : key?.isSome = summary.amountStyle.isNumeric := by
    rw [isSome_amountKeyOf hkey, isNumeric_amountStyleOf, ← hsummary]
  rw [← hsummary] at hamounts ⊢
  refine ⟨⟨search, _, ⟨source, rel, search.matching rel, key?⟩, totals, hname, rfl, hfound, hsearch,
    rfl, rfl, hkey, hamounts, hrows, htotals, rfl, rfl, hawardees, hmonthly, htop, hcoverage⟩,
    fun n => ?_⟩
  -- no step but that of the records of the highest amounts reads how many of them are kept
  exact (Result.bind_of_ok hcolumns).trans <| (Result.bind_of_ok hsearch).trans <|
    (Result.bind_of_ok hcount).trans <| (Result.bind_of_ok hkey).trans <|
    (Result.bind_of_ok hsource).trans <| (Result.bind_of_ok hrel).trans <|
    (Result.bind_of_ok htotals).trans <| (Result.bind_of_ok hawardees).trans <|
    (Result.bind_of_ok hmonthly).trans <| Result.bind_congr fun _ _ =>
    Result.bind_of_ok hcoverage

/-- **Each summary has a reading.** -/
theorem SummaryReading.exists_of_compute {d : Dataset} {config : Config} {table query : String}
    {summary : TableSummary}
    (h : TableSummary.compute (.dataset d) config table query = .ok summary) :
    Nonempty (SummaryReading d config table query summary) :=
  let ⟨r, _⟩ := exists_compute_eq_bind h
  ⟨r⟩

/-- A reading is made of the records that the search finds in the table. -/
lemma SummaryReading.selection_eq {d : Dataset} {config : Config} {table query : String}
    {summary : TableSummary} (r : SummaryReading d config table query summary) {rel : Relation}
    {search : Search} (hfound : d.relation? table = some rel)
    (hsearch : Search.ofQuery (columnNames rel.columns) query = .ok search) :
    r.selection.relation = rel ∧ r.selection.records = rel.records.filter (search.finds rel) ∧
      r.roles = TableRoles.resolve config table (columnNames rel.columns) := by
  have hrel : r.selection.relation = rel := Option.some.inj (r.found.symm.trans hfound)
  have hsame : r.search = search := by
    have hsearched := r.searched
    rw [hrel] at hsearched
    exact Except.ok.inj (hsearched.symm.trans hsearch)
  refine ⟨hrel, ?_, ?_⟩
  · rw [r.records, hrel, hsame, Search.matching_eq_filter]
  · rw [r.resolved, hrel]

/-! ### Tables that can be summarised -/

/-- The names of a relation can be written, and it has some. -/
def Relation.IsNamed (rel : Relation) : Prop :=
  rel.columns ≠ [] ∧ ∀ name ∈ columnNames rel.columns, Identifier.fault? name = none

instance (rel : Relation) : Decidable rel.IsNamed := inferInstanceAs (Decidable (_ ∧ _))

/-- The summary of a table can be made: the table can be searched, its texts and the names of the
tables are well-formed, and the number of records to keep fits into a statement. -/
structure Summarizable (d : Dataset) (config : Config) (table query : String) (rel : Relation) :
    Prop where
  served : TableRequest.Served { table := table, query := query } d rel
  texts : ∀ column ∈ columnNames rel.columns, ∀ record ∈ rel.records,
    (rel.cell column record).castText?.all fun bytes => (Text.Utf8.decode? bytes).isSome
  tables : ∀ t ∈ d.tables, Identifier.fault? t.name = none ∧ t.relation.IsNamed
  topRecords_lt : config.topRecords < Word.signedBound

/-- A column that is picked is one of the columns. -/
lemma mem_of_pickColumn? {columns candidates : List String} {column : String}
    (h : pickColumn? columns candidates = some column) : column ∈ columns := by
  obtain ⟨candidate, -, hfind⟩ := List.exists_of_findSome?_eq_some h
  exact List.mem_of_find?_eq_some hfind

/-- The date column is one of the columns. -/
lemma mem_of_date? {config : Config} {table : String} {columns : List String} {column : String}
    (h : (TableRoles.resolve config table columns).date? = some column) : column ∈ columns := by
  obtain ⟨candidate, -, hpick⟩ := Option.bind_eq_some_iff.mp h
  exact mem_of_pickColumn? hpick

section

variable {columns : List String} {column? : Option String}
  (hvalid : ∀ name ∈ columns, Identifier.fault? name = none)
  (hmem : ∀ column, column? = some column → column ∈ columns)

include hvalid hmem

/-- What needs a column succeeds if and only if it does for the column that there is, if any. -/
lemma exists_withColumn_iff {α : Type} [Inhabited α] {f : Identifier → Result α}
    {p : String → Prop} (hf : ∀ id : Identifier, (∃ a, f id = .ok a) ↔ p id.name) :
    (∃ a, withColumn column? f = .ok a) ↔ ∀ column, column? = some column → p column := by
  cases hcolumn : column? with
  | none => exact ⟨fun _ _ h => (nomatch h), fun _ => ⟨default, rfl⟩⟩
  | some column =>
      simp only [withColumn_some_eq_ok_iff, Option.some.injEq, forall_eq']
      constructor
      · rintro ⟨a, id, rfl, ha⟩
        exact (hf id).mp ⟨a, ha⟩
      · intro hp
        have hvalid := hvalid column (hmem column hcolumn)
        obtain ⟨a, ha⟩ := (hf ⟨column, hvalid⟩).mpr hp
        exact ⟨a, _, rfl, ha⟩

/-- One of the columns, if there is one, can be written. -/
lemma exists_mapM_ofName : ∃ id?, column?.mapM Identifier.ofName = .ok id? := by
  cases hcolumn : column? with
  | none => exact ⟨none, rfl⟩
  | some column =>
      have hname := hvalid column (hmem column hcolumn)
      refine ⟨some ⟨column, hname⟩, ?_⟩
      rw [Option.mapM_some, Identifier.ofName_of_valid hname]
      rfl

end

/-- The awardees of a selection are counted if and only if all their names are well-formed. -/
lemma Selection.exists_awardees_iff {s : Selection} {config : Config} {column : Identifier} :
    (∃ awardees, s.awardees config column = .ok awardees) ↔
      ∀ record ∈ s.records, isLegible (s.trimmed? column record) = true := by
  have hnames : (∃ awardees, s.awardees config column = .ok awardees) ↔
      ∃ names, s.records.mapM (s.awardeeName column) = .ok names := by
    constructor
    · rintro ⟨awardees, h⟩
      obtain ⟨names, hnames, -⟩ := Result.bind_eq_ok_iff.mp h
      exact ⟨names, hnames⟩
    · rintro ⟨names, hnames⟩
      exact ⟨_, Result.bind_eq_ok hnames rfl⟩
  rw [hnames, Result.exists_mapM_iff]
  exact forall₂_congr fun record _ => exists_shownText_getD_iff

/-- The key of the amounts is made if the amount column can be written. -/
lemma exists_amountKeyOf {roles : TableRoles} (style : AmountStyle)
    (h : ∀ column, roles.amount? = some column → Identifier.fault? column = none) :
    ∃ key?, amountKeyOf roles style = .ok key? := by
  rw [amountKeyOf]
  cases hcolumn : roles.amount? with
  | none => exact ⟨none, rfl⟩
  | some column =>
      cases style.isNumeric with
      | false => exact ⟨none, rfl⟩
      | true =>
          have hkey : SortKey.ofColumn column style = .ok ⟨⟨column, h column hcolumn⟩, style⟩ := by
            rw [SortKey.ofColumn, Identifier.ofName_of_valid (h column hcolumn)]
            rfl
          exact ⟨_, congrArg (some <$> ·) hkey⟩

/-! ### Attachment tables -/

/-- The catalogue has names for its columns. -/
lemma Dataset.isNamed_catalogue (d : Dataset) : d.catalogue.relation.IsNamed := by
  have hcolumns : ∀ (t : Table) (rows : List (List Cell)),
      (t.insertAll rows).columns = t.columns := by
    intro t rows
    induction rows generalizing t with
    | nil => rfl
    | cons row rows ih => exact ih (t.insert row)
  have hcatalogue : d.catalogue.relation.columns = (Dataset.catalogue (.ofTables [])).columns := by
    rw [Table.relation, catalogue, catalogue, hcolumns, hcolumns]
  rw [Relation.IsNamed, hcatalogue]
  decide +kernel

/-- Under the name of a table, something with names for its columns is found, whose records can be
read. -/
lemma Dataset.exists_relation? {d : Dataset} (h : ∀ t ∈ d.tables, t.relation.IsNamed) {t : Table}
    (ht : t ∈ d.tables) :
    ∃ rel, d.relation? t.name = some rel ∧ rel.failure? = none ∧ rel.IsNamed := by
  obtain ⟨entry, hentry, hfound⟩ := exists_find?_tableRelations ht (beq_self_eq_true _)
  refine ⟨entry.2, hfound, ?_⟩
  rcases List.mem_cons.mp (List.mem_of_find?_eq_some hentry) with rfl | hmem
  · exact ⟨rfl, d.isNamed_catalogue⟩
  · rcases List.mem_cons.mp hmem with rfl | hmem
    · exact ⟨rfl, d.isNamed_catalogue⟩
    · obtain ⟨other, hother, rfl⟩ := List.mem_map.mp hmem
      exact ⟨rfl, h other hother⟩

/-- The coverage of records is counted if the names of the tables can be written. -/
lemma exists_attachmentCoverage? {d : Dataset}
    (h : ∀ t ∈ d.tables, Identifier.fault? t.name = none ∧ t.relation.IsNamed) (config : Config)
    (table : Identifier) (base : Relation) (records : List Record) {recordId : String}
    (hrecordId : Identifier.fault? recordId = none) :
    ∃ coverage?, attachmentCoverage? (.dataset d) config table base records recordId =
      .ok coverage? := by
  obtain ⟨name?, hname⟩ : ∃ name?, Contents.firstTable? (.dataset d)
      (config.attachmentSuffixes.map fun suffix => table.name ++ suffix) = .ok name? :=
    ⟨_, Contents.firstTable?_dataset _ _⟩
  rw [attachmentCoverage?, Contents.attachmentTable?, hname]
  cases name? with
  | none => exact ⟨none, rfl⟩
  | some name =>
      obtain ⟨-, t, ht, rfl⟩ := Contents.firstTable?_eq_some hname
      obtain ⟨rel, hrel, hreadable, hnonempty, hnames⟩ :=
        Dataset.exists_relation? (fun t ht => (h t ht).2) ht
      have hvalid := (h t ht).1
      have hcolumns := (Contents.columns_eq_ok_iff hvalid hrel).mpr ⟨rfl, hnonempty⟩
      have hsource : Contents.source (.dataset d) ⟨t.name, hvalid⟩ = .ok rel :=
        Contents.source_eq_ok_iff.mpr ⟨hrel, hreadable⟩
      simp only [bind, Except.bind, hcolumns]
      cases hpick : pickColumn? (columnNames rel.columns) config.roles.recordId with
      | none => exact ⟨none, rfl⟩
      | some foreignId =>
          simp only [Identifier.ofName_of_valid hvalid, Identifier.ofName_of_valid hrecordId,
            Identifier.ofName_of_valid (hnames foreignId (mem_of_pickColumn? hpick)), hsource]
          exact ⟨_, rfl⟩

/-! ### Summaries that are made -/

/-- The texts that a summary of some records shows are well-formed: the types of the groups, the
names of all awardees, and the keys of the groups of months. -/
@[mk_iff isLegible_iff]
structure Relation.IsLegible (rel : Relation) (roles : TableRoles) (records : List Record) :
    Prop where
  types : ∀ column, roles.recordType? = some column →
    ∀ group ∈ groupRecords rel typeName
      (fun record => textCell (rel.cell column record).trimmedText?) records,
      isLegible (rel.cell column group.1).trimmedText? = true
  awardees : ∀ column, roles.awardee? = some column → ∀ record ∈ records,
    isLegible (rel.cell column record).trimmedText? = true
  months : ∀ column, roles.date? = some column →
    ∀ group ∈ groupRecords rel monthName
      (fun record => textCell (rel.monthKey? column record)) records,
      isLegible (rel.monthKey? column group.1) = true

section

variable {d : Dataset} {config : Config} {table query : String} {rel : Relation}
  {roles : TableRoles} (hvalid : ∀ name ∈ columnNames rel.columns, Identifier.fault? name = none)
  (hroles : roles = TableRoles.resolve config table (columnNames rel.columns))

include hvalid hroles

/-- The records of the highest amounts are listed. -/
lemma Selection.exists_topAmounts (hlimit : config.topRecords < Word.signedBound)
    (s : Selection) : ∃ top, s.topAmounts config roles = .ok top := by
  subst hroles
  have hpicked : ∀ candidates, ∃ id?,
      (pickColumn? (columnNames rel.columns) candidates).mapM Identifier.ofName = .ok id? :=
    fun candidates => exists_mapM_ofName hvalid fun _ => mem_of_pickColumn?
  obtain ⟨recordId?, hrecordId⟩ := hpicked config.roles.recordId
  obtain ⟨description?, hdescription⟩ := hpicked config.roles.description
  obtain ⟨awardee?, hawardee⟩ := hpicked config.roles.awardee
  have hlimit : checkLimit config.topRecords = .ok () := if_pos hlimit
  rw [topAmounts]
  split
  · exact ⟨_, Result.bind_eq_ok hrecordId <| Result.bind_eq_ok hdescription <|
      Result.bind_eq_ok hawardee <| Result.bind_eq_ok hlimit rfl⟩
  · exact ⟨[], rfl⟩

/-- The coverage of the records is counted, if there is one. -/
lemma Selection.exists_coverage?
    (htables : ∀ t ∈ d.tables, Identifier.fault? t.name = none ∧ t.relation.IsNamed)
    (s : Selection) : ∃ coverage?, s.coverage? (.dataset d) config roles = .ok coverage? := by
  subst hroles
  rw [coverage?]
  split
  · rename_i column hcolumn
    exact exists_attachmentCoverage? htables config _ _ _
      (hvalid column (mem_of_pickColumn? hcolumn))
  · exact ⟨none, rfl⟩

/-- The types, the awardees and the months are all made if and only if what they show is
well-formed. -/
lemma Selection.exists_parts_iff {s : Selection} (hrel : s.relation = rel) :
    ((∃ totals, withColumn roles.recordType? (TypeTotal.ofSelection s config) = .ok totals) ∧
      (∃ awardees, withColumn roles.awardee? (s.awardees config) = .ok awardees) ∧
      ∃ monthly, withColumn roles.date? s.monthlyBuckets = .ok monthly) ↔
      rel.IsLegible roles s.records := by
  subst hrel hroles
  rw [Relation.isLegible_iff]
  refine and_congr ?_ (and_congr ?_ ?_)
  · exact exists_withColumn_iff hvalid (fun _ => mem_of_pickColumn?)
      fun _ => TypeTotal.exists_ofSelection_iff
  · exact exists_withColumn_iff hvalid (fun _ => mem_of_pickColumn?)
      fun _ => exists_awardees_iff
  · exact exists_withColumn_iff hvalid (fun _ => mem_of_date?)
      fun _ => exists_monthlyBuckets_iff

end

namespace TableSummary

variable {d : Dataset} {config : Config} {table query : String} {rel : Relation}

/-- **A table that cannot be searched** has no summary. -/
lemma compute_eq_error (h : TableRequest.Checked { table := table, query := query } d rel)
    {search : Search} {e : Error}
    (hsearch : Search.ofQuery (columnNames rel.columns) query = .ok search)
    (hread : (search.checkDepth 0 >>= fun _ =>
      Contents.source (.dataset d) ⟨table, h.table_valid⟩) = .error e) (config : Config) :
    compute (.dataset d) config table query = .error e := by
  rw [compute, h.columns_eq, Result.ok_bind, hsearch, Result.ok_bind]
  dsimp only
  rw [h.countRows_eq_error hread]
  rfl

/-- **The summary is made** if and only if the texts that it shows are well-formed. -/
theorem exists_compute_iff (hserved : TableRequest.Served { table := table, query := query } d rel)
    (htables : ∀ t ∈ d.tables, Identifier.fault? t.name = none ∧ t.relation.IsNamed)
    (hlimit : config.topRecords < Word.signedBound) {search : Search}
    (hsearch : Search.ofQuery (columnNames rel.columns) query = .ok search) :
    (∃ summary, compute (.dataset d) config table query = .ok summary) ↔
      rel.IsLegible (TableRoles.resolve config table (columnNames rel.columns))
        (search.matching rel) := by
  have hvalid := hserved.columns_valid
  let source : Identifier := ⟨table, hserved.table_valid⟩
  let roles := TableRoles.resolve config table (columnNames rel.columns)
  let style := amountStyleOf (.dataset d) config table roles search
  obtain ⟨key?, hkey⟩ : ∃ key?, amountKeyOf roles style = .ok key? :=
    exists_amountKeyOf style fun column hcolumn => hvalid column (mem_of_pickColumn? hcolumn)
  let s : Selection := ⟨source, rel, search.matching rel, key?⟩
  have hname : Identifier.ofName table = .ok source := Identifier.ofName_of_valid source.valid
  have hrel : Contents.source (.dataset d) source = .ok rel :=
    Contents.source_eq_ok_iff.mpr ⟨hserved.found, hserved.searchable.readable⟩
  have hdepth : search.checkDepth 0 = .ok () :=
    (Relation.checkDepth_eq_ok_iff hsearch).mpr hserved.searchable.fits
  have hcount : countRows (.dataset d) table search = .ok (search.matching rel).length :=
    Result.bind_eq_ok hname <| Result.bind_eq_ok hdepth <| Result.bind_eq_ok hrel rfl
  have hparts : _ ↔ rel.IsLegible roles s.records :=
    Selection.exists_parts_iff hvalid rfl (s := s) rfl
  rw [← hparts, compute, hserved.columns_eq, Result.ok_bind, hsearch, Result.ok_bind, hcount,
    Result.ok_bind]
  dsimp only
  rw [hkey, Result.ok_bind, hname, Result.ok_bind, hrel, Result.ok_bind]
  constructor
  · rintro ⟨summary, h⟩
    obtain ⟨totals, htotals, h⟩ := Result.bind_eq_ok_iff.mp h
    obtain ⟨awardees, hawardees, h⟩ := Result.bind_eq_ok_iff.mp h
    obtain ⟨monthly, hmonthly, -⟩ := Result.bind_eq_ok_iff.mp h
    exact ⟨⟨totals, htotals⟩, ⟨awardees, hawardees⟩, monthly, hmonthly⟩
  · rintro ⟨⟨totals, htotals⟩, ⟨awardees, hawardees⟩, monthly, hmonthly⟩
    obtain ⟨top, htop⟩ := Selection.exists_topAmounts hvalid rfl hlimit s
    obtain ⟨coverage?, hcoverage⟩ := Selection.exists_coverage? hvalid rfl htables s
    exact ⟨_, Result.bind_eq_ok htotals <| Result.bind_eq_ok hawardees <|
      Result.bind_eq_ok hmonthly <| Result.bind_eq_ok htop <|
      Result.bind_eq_ok hcoverage rfl⟩

end TableSummary

/-- The texts of a table that can be summarised are well-formed. -/
lemma Summarizable.isLegible {d : Dataset} {config : Config} {table query : String}
    {rel : Relation} (h : Summarizable d config table query rel) (search : Search) :
    rel.IsLegible (TableRoles.resolve config table (columnNames rel.columns))
      (search.matching rel) := by
  have htext : ∀ column ∈ columnNames rel.columns, ∀ record ∈ search.matching rel,
      TableExplorer.isLegible (rel.cell column record).trimmedText? = true := by
    intro column hcolumn record hrecord
    rw [search.matching_eq_filter] at hrecord
    exact isLegible_trimmedText? (h.texts column hcolumn record (List.mem_filter.mp hrecord).1)
  refine ⟨fun column hcolumn group hgroup => ?_, fun column hcolumn record hrecord => ?_,
    fun column hcolumn group hgroup => ?_⟩
  · exact htext column (mem_of_pickColumn? hcolumn) _
      ((isGrouping_groupRecords ..).first_mem_items hgroup)
  · exact htext column (mem_of_pickColumn? hcolumn) record hrecord
  · exact isLegible_monthKey? (htext column (mem_of_date? hcolumn) _
      ((isGrouping_groupRecords ..).first_mem_items hgroup))

/-- **The summary** of a table that can be summarised is made. -/
theorem TableSummary.exists_compute {d : Dataset} {config : Config} {table query : String}
    {rel : Relation} (h : Summarizable d config table query rel) :
    ∃ summary, TableSummary.compute (.dataset d) config table query = .ok summary := by
  obtain ⟨ids, -, hsearch⟩ := Search.ofQuery_of_valid h.served.columns_valid h.served.query_valid
  exact (exists_compute_iff h.served h.tables h.topRecords_lt hsearch).mpr (h.isLegible _)

end TableExplorer
