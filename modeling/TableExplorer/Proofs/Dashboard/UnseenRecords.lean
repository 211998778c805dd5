import TableExplorer.Explorer
import TableExplorer.Proofs.Dashboard.Summary
import TableExplorer.Proofs.View.UnseenRecords

/-!
Records that a search does not find leave no trace in the summary of their table, and so in nothing
that is answered about the table under this search.

* `Selection.bare`: a selection of records without their numbers, in a relation that has no others;
  `ofSelection_bare`, `awardees_bare`, `monthlyBuckets_bare`, `topRecords_bare`,
  `attachmentCoverage?_bare`: **each part of a summary** is made of that alone.
* `Dataset.SameFound.compute_summary_eq`: **the summary** is the same in two datasets in which the
  same is found.
* `Explorer.sameAnswers_of_sameFound`: **all answers** about the table are the same.
-/

namespace TableExplorer

/-! ### Selections without numbers -/

namespace Selection

/-- A selection of records without their numbers, in a relation that has no others. -/
def bare (s : Selection) : Selection :=
  { s with
    relation := { s.relation with records := [] }
    records := s.records.map Record.bare }

@[simp]
lemma records_bare (s : Selection) : s.bare.records = s.records.map Record.bare := rfl

/-- A group of records without their numbers. -/
def bareGroup (group : Record × List Record) : Record × List Record :=
  (group.1.bare, group.2.map Record.bare)

/-- The amounts of a selection, if there are amounts, are in a column. -/
def IsKeyed (s : Selection) : Prop :=
  ∀ key, s.amountKey? = some key → hasColumn s.relation.columns key.column.name = true

variable {s : Selection} {column : Identifier}

/-- The text of a column does not depend on numbers. -/
lemma trimmed?_bare (hcolumn : hasColumn s.relation.columns column.name = true) (record : Record) :
    s.bare.trimmed? column record.bare = s.trimmed? column record :=
  congrArg Cell.trimmedText? (Relation.cell_bare hcolumn record)

/-- What is shown of a column does not depend on numbers. -/
lemma shownField?_bare {column? : Option Identifier}
    (hcolumn : ∀ column, column? = some column →
      hasColumn s.relation.columns column.name = true) (record : Record) :
    s.bare.shownField? column? record.bare = s.shownField? column? record := by
  cases column? with
  | none => rfl
  | some column =>
      exact congrArg (fun cell => cell.read.nonBlankText?)
        (Relation.cell_bare (hcolumn column rfl) record)

/-- Amounts do not depend on numbers. -/
lemma amount?_bare (hkey : s.IsKeyed) (record : Record) :
    s.bare.amount? record.bare = s.amount? record := by
  cases hamount : s.amountKey? with
  | none => simp only [amount?, bare, hamount, Option.bind_eq_bind, Option.bind_none]
  | some key =>
      have hcell := Relation.cell_bare (hkey key hamount) record
      simp only [amount?, bare, hamount, Option.bind_eq_bind, Option.bind_some]
      exact congrArg (Cell.amount? key.style) hcell

/-- Sums do not depend on numbers. -/
lemma sum?_bare (hkey : s.IsKeyed) (records : List Record) :
    s.bare.sum? (records.map Record.bare) = s.sum? records := by
  rw [sum?, sum?, List.filterMap_map]
  exact congrArg (fun amount? => Binary64.compensatedSum (records.filterMap amount?))
    (funext (amount?_bare hkey))

/-- The groups of records without their numbers are those of the records. -/
lemma groupRecords_bare {name : String} {computed computed' : Record → Cell}
    (hcomputed : ∀ record : Record, computed' record.bare = computed record) :
    groupRecords s.bare.relation name computed' s.bare.records =
      (groupRecords s.relation name computed s.records).map bareGroup := by
  have hcell : (fun record : Record => groupingCell s.bare.relation name computed' record.bare) =
      groupingCell s.relation name computed := by
    funext record
    rw [groupingCell, groupingCell,
      show s.bare.relation.columnIndex? name = s.relation.columnIndex? name from rfl]
    cases s.relation.columnIndex? name with
    | some index => rfl
    | none => exact hcomputed record
  rw [groupRecords_eq, groupRecords_eq, records_bare, groupBy_map, hcell]
  rfl

end Selection

/-! ### The parts of a summary -/

section

variable {s : Selection} {column : Identifier} {config : Config}

/-- **The totals by type** do not depend on numbers. -/
lemma TypeTotal.ofSelection_bare (hkey : s.IsKeyed)
    (hcolumn : hasColumn s.relation.columns column.name = true) :
    ofSelection s.bare config column = ofSelection s config column := by
  have hgroup : ∀ group : Record × List Record,
      ofGroup s.bare config column (Selection.bareGroup group) = ofGroup s config column group := by
    intro group
    rw [ofGroup, ofGroup, Selection.bareGroup]
    simp only [Selection.trimmed?_bare hcolumn, List.length_map, Selection.sum?_bare hkey]
  rw [ofSelection, ofSelection, Selection.groupRecords_bare fun record =>
    congrArg textCell (Selection.trimmed?_bare hcolumn record), List.mapM_map]
  exact congrArg (fun step => List.mapM step _ >>= fun totals => pure (combine totals))
    (funext hgroup)

namespace Selection

/-- **The awardees** do not depend on numbers. -/
lemma awardees_bare (hcolumn : hasColumn s.relation.columns column.name = true) :
    s.bare.awardees config column = s.awardees config column := by
  have hname : ∀ record : Record,
      s.bare.awardeeName column record.bare = s.awardeeName column record := by
    intro record
    rw [awardeeName, awardeeName, trimmed?_bare hcolumn]
  have hnames : s.bare.records.mapM (s.bare.awardeeName column) =
      s.records.mapM (s.awardeeName column) := by
    rw [records_bare, List.mapM_map]
    exact congrArg (fun step => s.records.mapM step) (funext hname)
  rw [awardees, awardees, hnames]

/-- **The months** do not depend on numbers. -/
lemma monthlyBuckets_bare (hkey : s.IsKeyed)
    (hcolumn : hasColumn s.relation.columns column.name = true) :
    s.bare.monthlyBuckets column = s.monthlyBuckets column := by
  let bareKeyed (keyed : Option ByteArray × List Record) : Option ByteArray × List Record :=
    (keyed.1, keyed.2.map Record.bare)
  have hbucket : ∀ keyed : Option ByteArray × List Record,
      s.bare.monthlyBucket? (bareKeyed keyed) = s.monthlyBucket? keyed := by
    intro keyed
    rw [monthlyBucket?, monthlyBucket?]
    simp only [bareKeyed, List.length_map, sum?_bare hkey]
    rfl
  have hmonth : ∀ record : Record, (s.bare.trimmed? column record.bare).map monthKey =
      (s.trimmed? column record).map monthKey := by
    intro record
    rw [trimmed?_bare hcolumn]
  have hkeyed : ∀ groups : List (Record × List Record),
      (groups.map bareGroup).map (fun group =>
          ((s.bare.trimmed? column group.1).map monthKey, group.2)) =
        (groups.map fun group => ((s.trimmed? column group.1).map monthKey, group.2)).map
          bareKeyed := by
    intro groups
    rw [List.map_map, List.map_map]
    exact List.map_congr_left fun group _ => congrArg (·, group.2.map Record.bare) (hmonth group.1)
  rw [monthlyBuckets, monthlyBuckets]
  dsimp only
  rw [groupRecords_bare fun record => congrArg textCell (hmonth record), hkeyed, sortBy_map,
    List.mapM_map]
  exact congrArg (fun step => List.mapM step _ >>= fun buckets => pure (buckets.filterMap id))
    (funext hbucket)

/-- The records of the highest amounts do not depend on numbers, if what they show is in columns. -/
lemma topRecords_bare (hkey : s.IsKeyed) {roles : TableRoles}
    (hroles : ∀ column, roles.recordId? = some column ∨ roles.description? = some column ∨
      roles.awardee? = some column → hasColumn s.relation.columns column = true) :
    s.bare.topRecords config roles = s.topRecords config roles := by
  let bareAmount (amount : Binary64 × Record) : Binary64 × Record := (amount.1, amount.2.bare)
  have hamounts : s.bare.records.filterMap (fun record => (s.bare.amount? record).map (·, record)) =
      (s.records.filterMap fun record => (s.amount? record).map (·, record)).map bareAmount := by
    rw [records_bare, List.filterMap_map, List.map_filterMap]
    refine List.filterMap_congr fun record _ => ?_
    rw [Function.comp_apply, amount?_bare hkey, Option.map_map]
    rfl
  have hfield : ∀ {column? : Option String} {id? : Option Identifier},
      column?.mapM Identifier.ofName = .ok id? →
      (∀ column, column? = some column → hasColumn s.relation.columns column = true) →
      ∀ record : Record, s.bare.shownField? id? record.bare = s.shownField? id? record := by
    intro column? id? hid hcolumn record
    refine shownField?_bare (fun id hsome => hcolumn _ ?_) record
    rw [← map_name_of_mapM_ofName hid, hsome]
    rfl
  refine Result.bind_congr fun recordId? hid => Result.bind_congr fun description? hdescription =>
    Result.bind_congr fun awardee? hawardee => Result.bind_congr fun _ _ => ?_
  have hid := hfield hid fun column h => hroles column (.inl h)
  have hdescription := hfield hdescription fun column h => hroles column (.inr (.inl h))
  have hawardee := hfield hawardee fun column h => hroles column (.inr (.inr h))
  dsimp only
  rw [hamounts, sortBy_map, ← List.map_take, List.map_map]
  refine congrArg Except.ok (List.map_congr_left fun amount _ => ?_)
  simp only [Function.comp_apply, bareAmount, hid, hdescription, hawardee]
  rfl

end Selection

/-- **The coverage of attachments** does not depend on the numbers of records. -/
lemma attachmentCoverage?_bare {contents : Contents} {recordId : String}
    (hcolumn : hasColumn s.relation.columns recordId = true) :
    attachmentCoverage? contents config s.table s.bare.relation s.bare.records recordId =
      attachmentCoverage? contents config s.table s.relation s.records recordId := by
  have hattachment : ∀ (own foreign : Identifier) (attachments : Relation) (record : Record),
      own.name = recordId →
      hasAttachment s.table own foreign s.bare.relation attachments record.bare =
        hasAttachment s.table own foreign s.relation attachments record := by
    intro own foreign attachments record hown
    rw [hasAttachment, hasAttachment]
    cases isHidden s.table own attachments with
    | true => rfl
    | false =>
        have hcolumn : hasColumn s.relation.columns own.name = true := hown ▸ hcolumn
        have hcell := Relation.cell_bare hcolumn record
        rw [Relation.cell, Relation.cell] at hcell
        simp only [Bool.false_eq_true, if_false]
        rw [← hcell]
        rfl
  have hcoverage : ∀ (own foreign : Identifier) (attachments : Relation), own.name = recordId →
      coverageOf s.table own foreign s.bare.relation attachments s.bare.records =
        coverageOf s.table own foreign s.relation attachments s.records := by
    intro own foreign attachments hown
    have hcovered : s.bare.records.countP
          (hasAttachment s.table own foreign s.bare.relation attachments) =
        s.records.countP (hasAttachment s.table own foreign s.relation attachments) := by
      rw [Selection.records_bare, List.countP_map]
      exact List.countP_congr fun record _ => by
        rw [Function.comp_apply, hattachment own foreign attachments record hown]
    rw [coverageOf, coverageOf, hcovered]
    simp only [Selection.bare, List.length_map]
  rw [attachmentCoverage?, attachmentCoverage?]
  refine Result.bind_congr fun name? _ => ?_
  cases name? with
  | none => rfl
  | some name =>
      refine Result.bind_congr fun columns _ => ?_
      cases pickColumn? (columnNames columns) config.roles.recordId with
      | none => rfl
      | some foreignId =>
          refine Result.bind_congr fun source _ => Result.bind_congr fun foreign _ =>
            Result.bind_congr fun own hown => Result.bind_congr fun attachments _ => ?_
          rw [hcoverage own foreign attachments (Identifier.ofName_eq_ok_iff.mp hown)]

end

/-! ### Summaries in two datasets -/

/-- What is done for a column is the same if it is so for the column that there is. -/
lemma withColumn_congr {α : Type} [Inhabited α] {column? : Option String}
    {f g : Identifier → Result α} (h : ∀ id : Identifier, column? = some id.name → f id = g id) :
    withColumn column? f = withColumn column? g := by
  cases column? with
  | none => rfl
  | some column =>
      exact Result.bind_congr fun id hid => h id (by rw [Identifier.ofName_eq_ok_iff.mp hid])

/-- The key of the amounts is a column that plays this part. -/
lemma amount?_of_amountKeyOf {roles : TableRoles} {style : AmountStyle} {key? : Option SortKey}
    (h : amountKeyOf roles style = .ok key?) {key : SortKey} (hkey : key? = some key) :
    roles.amount? = some key.column.name := by
  subst hkey
  rcases amountKeyOf_cases h with ⟨key', hsome, hcolumn, -⟩ | ⟨hnone, -⟩
  · rw [hcolumn, Option.some.inj hsome]
  · cases hnone

/-- A longer name is not the same as its beginning. -/
lemma sameName_append_eq_false (base : String) {suffix : String} (h : suffix.isEmpty = false) :
    sameName (base ++ suffix) base = false := by
  rw [sameName, beq_eq_false_iff_ne]
  intro heq
  have hlength := congrArg List.length heq
  have hpositive : 0 < suffix.toList.length := by
    rw [List.length_pos_iff]
    intro hnil
    rw [String.toList_eq_nil_iff.mp hnil] at h
    cases h
  rw [asciiLower, asciiLower, List.length_map, List.length_map, String.toList_append,
    List.length_append] at hlength
  omega

/-- The suffixes of a configuration that can be used are not empty. -/
lemma Config.isEmpty_suffix {config : Config} (h : config.check = .ok ()) {suffix : String}
    (hsuffix : suffix ∈ config.attachmentSuffixes) : suffix.isEmpty = false := by
  have hfault : config.fault? = none := by
    rw [check] at h
    split at h
    · cases h
    · assumption
  rw [fault?] at hfault
  split at hfault
  · cases hfault
  · split_ifs at hfault with hsuffixes
    rw [Bool.not_eq_true, Bool.or_eq_false_iff] at hsuffixes
    simpa using List.any_eq_false.mp hsuffixes.2 suffix hsuffix

namespace Selection

/-- Two selections differ in the numbers of records only, and their amounts are in a column. -/
structure SameBare (s s' : Selection) : Prop where
  bare : s.bare = s'.bare
  keyed : s.IsKeyed

variable {s s' : Selection}

/-- What does not depend on numbers is the same for selections that only differ in them. -/
lemma SameBare.eq {α : Type} (h : s.SameBare s') (f : Selection → α)
    (hf : ∀ t : Selection, t.relation.columns = s.relation.columns → t.IsKeyed →
      f t.bare = f t) : f s = f s' := by
  have hcolumns : s'.relation.columns = s.relation.columns :=
    congrArg (·.relation.columns) h.bare.symm
  have hkeyed : s'.IsKeyed := by
    intro key hkey
    rw [hcolumns]
    exact h.keyed key ((congrArg (·.amountKey?) h.bare).trans hkey)
  rw [← hf s rfl h.keyed, h.bare, hf s' hcolumns hkeyed]

/-- What is done for a column does not depend on numbers, if there is this column. -/
lemma SameBare.withColumn_eq {α : Type} [Inhabited α] (h : s.SameBare s')
    {column? : Option String} (f : Selection → Identifier → Result α)
    (hcolumn : ∀ column, column? = some column → column ∈ columnNames s.relation.columns)
    (hf : ∀ {t : Selection} {id : Identifier}, t.IsKeyed →
      hasColumn t.relation.columns id.name = true → f t.bare id = f t id) :
    withColumn column? (f s) = withColumn column? (f s') :=
  withColumn_congr fun id hid => h.eq (f · id) fun _ ht hkeyed =>
    hf hkeyed (ht ▸ Relation.hasColumn_of_mem (hcolumn _ hid))

/-- The highest amounts do not depend on numbers, if what is shown with them is in columns. -/
lemma SameBare.topAmounts_eq (h : s.SameBare s') (config : Config) {roles : TableRoles}
    (hroles : ∀ column, roles.recordId? = some column ∨ roles.description? = some column ∨
      roles.awardee? = some column → column ∈ columnNames s.relation.columns) :
    s.topAmounts config roles = s'.topAmounts config roles := by
  have htop : s.topRecords config roles = s'.topRecords config roles :=
    h.eq (Selection.topRecords · config roles) fun _ ht hkeyed => topRecords_bare hkeyed
      fun column hrole => ht ▸ Relation.hasColumn_of_mem (hroles column hrole)
  have hkey : s.amountKey? = s'.amountKey? := congrArg (·.amountKey?) h.bare
  rw [topAmounts, topAmounts, hkey, htop]

/-- Selections of what a search finds only differ in numbers if the same is found. -/
lemma sameBare_of_sameFound {rel rel' : Relation} {search : Search}
    (h : rel.SameFound search rel') (source : Identifier) {key? : Option SortKey}
    (hkey : ∀ key, key? = some key → key.column.name ∈ columnNames rel.columns) :
    SameBare ⟨source, rel, search.matching rel, key?⟩
      ⟨source, rel', search.matching rel', key?⟩ := by
  refine ⟨?_, fun key hsome => Relation.hasColumn_of_mem (hkey key hsome)⟩
  simp only [bare, h.columns, h.numbered, h.collations, h.failure, h.bare_eq]

end Selection

/-- The style of the amounts is the same, if these are in a column. -/
lemma Contents.SameFound.amountStyleOf_eq {table : String} {columns : List Column}
    {search : Search} {contents contents' : Contents}
    (h : Contents.SameFound table columns search contents contents') (config : Config)
    {roles : TableRoles}
    (hamount : ∀ column, roles.amount? = some column → column ∈ columnNames columns) :
    amountStyleOf contents config table roles search =
      amountStyleOf contents' config table roles search := by
  rw [amountStyleOf, amountStyleOf]
  cases hrole : roles.amount? with
  | none => rfl
  | some column => exact h.detect_eq _ (Relation.hasColumn_of_mem (hamount column hrole))

namespace Dataset.SameFound

variable {table query : String} {d d' : Dataset} (h : d.SameFound table query d')
  {config : Config}

include h

/-- The rows of attachment tables are the same, so records have the same coverage. -/
lemma attachmentCoverage?_eq (hconfig : config.check = .ok ()) {source : Identifier}
    (hsource : source.name = table) (base : Relation) (records : List Record)
    (recordId : String) :
    attachmentCoverage? (.dataset d) config source base records recordId =
      attachmentCoverage? (.dataset d') config source base records recordId := by
  rw [attachmentCoverage?, attachmentCoverage?, ← h.attachmentTable?_eq]
  refine Result.bind_congr fun name? hname => ?_
  cases name? with
  | none => rfl
  | some name =>
      obtain ⟨hmem, t, ht, rfl⟩ := Contents.firstTable?_eq_some hname
      -- the table is not its own attachment table
      have hother : sameName t.name table = false := by
        obtain ⟨suffix, hsuffix, hsame⟩ := List.mem_map.mp hmem
        rw [← hsame, hsource]
        exact sameName_append_eq_false table (Config.isEmpty_suffix hconfig hsuffix)
      dsimp only
      rw [← h.columns_eq]
      refine Result.bind_congr fun columns _ => ?_
      cases pickColumn? (columnNames columns) config.roles.recordId with
      | none => rfl
      | some foreignId =>
          refine Result.bind_congr fun id hid => Result.bind_congr fun foreign _ =>
            Result.bind_congr fun own hown => ?_
          have hrelation : Contents.source (.dataset d) id = Contents.source (.dataset d') id := by
            rw [Contents.source, Contents.source, Identifier.ofName_eq_ok_iff.mp hid,
              h.relation?_eq ht hother]
          rw [hrelation]

/-- The coverage of attachments is the same for selections that only differ in numbers. -/
lemma coverage?_eq (hconfig : config.check = .ok ()) {s s' : Selection} (hbare : s.SameBare s')
    (hsource : s.table.name = table) {roles : TableRoles}
    (hrecordId : ∀ column, roles.recordId? = some column →
      column ∈ columnNames s.relation.columns) :
    s.coverage? (.dataset d) config roles = s'.coverage? (.dataset d') config roles := by
  rw [Selection.coverage?, Selection.coverage?]
  cases hrole : roles.recordId? with
  | none => rfl
  | some recordId =>
      have hcolumn : hasColumn s.relation.columns recordId = true :=
        Relation.hasColumn_of_mem (hrecordId recordId hrole)
      dsimp only
      rw [h.attachmentCoverage?_eq hconfig hsource]
      refine hbare.eq
        (fun s => attachmentCoverage? (.dataset d') config s.table s.relation s.records recordId)
        fun t ht _ => ?_
      rw [← ht] at hcolumn
      exact attachmentCoverage?_bare (s := t) hcolumn

/-- **The summary** of the table is the same. -/
theorem compute_summary_eq (hconfig : config.check = .ok ()) :
    TableSummary.compute (.dataset d) config table query =
      TableSummary.compute (.dataset d') config table query := by
  rw [TableSummary.compute, TableSummary.compute, h.columns_eq]
  refine Result.bind_congr fun columns hcolumns => Result.bind_congr fun search hsearch => ?_
  rw [← h.columns_eq] at hcolumns
  have hfound := h.contents hcolumns hsearch
  let roles := TableRoles.resolve config table (columnNames columns)
  have hstyle : amountStyleOf (.dataset d) config table roles search =
      amountStyleOf (.dataset d') config table roles search :=
    hfound.amountStyleOf_eq config fun _ => mem_of_pickColumn?
  rw [hfound.countRows_eq]
  refine Result.bind_congr fun totalRows _ => ?_
  dsimp only
  rw [hstyle]
  refine Result.bind_congr fun key? hkey => Result.bind_congr fun source hsource =>
    hfound.bind_source_eq hsource fun rel rel' hrel hsame => ?_
  have hname := Identifier.ofName_eq_ok_iff.mp hsource
  subst hrel
  let s : Selection := ⟨source, rel, search.matching rel, key?⟩
  let s' : Selection := ⟨source, rel', search.matching rel', key?⟩
  have hbare : s.SameBare s' := Selection.sameBare_of_sameFound hsame source fun key hsome =>
    mem_of_pickColumn? (amount?_of_amountKeyOf hkey hsome)
  have htotals : withColumn roles.recordType? (TypeTotal.ofSelection s config) =
      withColumn roles.recordType? (TypeTotal.ofSelection s' config) :=
    hbare.withColumn_eq (TypeTotal.ofSelection · config) (fun _ => mem_of_pickColumn?)
      TypeTotal.ofSelection_bare
  have hawardees : withColumn roles.awardee? (s.awardees config) =
      withColumn roles.awardee? (s'.awardees config) :=
    hbare.withColumn_eq (Selection.awardees · config) (fun _ => mem_of_pickColumn?)
      fun _ => Selection.awardees_bare
  have hmonthly : withColumn roles.date? s.monthlyBuckets =
      withColumn roles.date? s'.monthlyBuckets :=
    hbare.withColumn_eq Selection.monthlyBuckets (fun _ => mem_of_date?)
      Selection.monthlyBuckets_bare
  have hshown : ∀ column, roles.recordId? = some column ∨ roles.description? = some column ∨
      roles.awardee? = some column → column ∈ columnNames rel.columns := by
    intro column hrole
    rcases hrole with hid | hdescription | hawardee
    · exact mem_of_pickColumn? hid
    · exact mem_of_pickColumn? hdescription
    · exact mem_of_pickColumn? hawardee
  have htop : s.topAmounts config roles = s'.topAmounts config roles :=
    hbare.topAmounts_eq config hshown
  have hcoverage : s.coverage? (.dataset d) config roles =
      s'.coverage? (.dataset d') config roles :=
    h.coverage?_eq hconfig hbare hname fun column hid => hshown column (.inl hid)
  exact Result.bind_eq_bind htotals fun totals => Result.bind_eq_bind hawardees fun awardees =>
    Result.bind_eq_bind hmonthly fun monthly => Result.bind_eq_bind htop fun top =>
    Result.bind_eq_bind hcoverage fun coverage? => rfl

end Dataset.SameFound

/-! ### Explorers -/

deriving instance DecidableEq for Cell

namespace Explorer

/-- Two explorers give the same answers about one table under one search. -/
structure SameAnswers (table query : String) (e e' : Explorer) : Prop where
  page : ∀ request : TableRequest, request.table = table → request.query = query →
    e.page request = e'.page request
  rows : ∀ request : TableRequest, request.table = table → request.query = query →
    e.rows request = e'.rows request
  exportCsv : ∀ request : TableRequest, request.table = table → request.query = query →
    e.exportCsv request = e'.exportCsv request
  histogram : ∀ request : HistogramRequest, request.table = table → request.query = query →
    e.histogram request = e'.histogram request
  tableSummary : e.tableSummary table query = e'.tableSummary table query
  summarizeTable : e.summarizeTable table query = e'.summarizeTable table query

/-- An explorer that is opened has the dataset and the configuration, which can be used. -/
lemma open_eq_ok_iff {d : Dataset} {config : Config} {e : Explorer} :
    Explorer.open (some (.dataset d)) config = .ok e ↔
      config.check = .ok () ∧ e = ⟨.dataset d, config⟩ := by
  rw [Explorer.open, Result.bind_eq_ok_iff]
  constructor
  · rintro ⟨_, hcheck, he⟩
    exact ⟨hcheck, (Except.ok.inj he).symm⟩
  · rintro ⟨hcheck, rfl⟩
    exact ⟨(), hcheck, rfl⟩

/-- **Records that a search does not find leave no trace.**  Two datasets of the same schema, in
which the search finds the same records of a table, in their order, and all other tables are the
same, give the same answers about this table under this search: its pages and rows in any order, its
histograms and its summary, with all styles, labels and spellings, or the same errors. -/
theorem sameAnswers_of_sameFound {table query : String} {d d' : Dataset} {config : Config}
    {e e' : Explorer} (he : Explorer.open (some (.dataset d)) config = .ok e)
    (he' : Explorer.open (some (.dataset d')) config = .ok e')
    (h : d.SameFound table query d') : SameAnswers table query e e' := by
  obtain ⟨hconfig, rfl⟩ := open_eq_ok_iff.mp he
  obtain ⟨-, rfl⟩ := open_eq_ok_iff.mp he'
  have hrows : ∀ request : TableRequest, request.table = table → request.query = query →
      loadAll (.dataset d) config request = loadAll (.dataset d') config request :=
    fun request htable hquery => h.loadAll_eq config htable hquery
  have hsummary : TableSummary.compute (.dataset d) config table query =
      TableSummary.compute (.dataset d') config table query := h.compute_summary_eq hconfig
  refine ⟨fun request htable hquery => h.loadPage_eq config htable hquery, hrows,
    fun request htable hquery => ?_, fun request htable hquery => h.compute_eq config htable hquery,
    hsummary, ?_⟩
  · rw [exportCsv, exportCsv, rows, rows, hrows request htable hquery]
  · rw [summarizeTable, summarizeTable, tableSummary, tableSummary, hsummary]

/-- An amount in another record does not make the text that is found an amount. -/
theorem texts_sameAnswers :
    Explorer.open (some (.dataset (.ofCells [.ofString "x", .ofString "1,50"]))) {} =
        .ok ⟨.dataset (.ofCells [.ofString "x", .ofString "1,50"]), {}⟩ ∧
      Explorer.open (some (.dataset (.ofCells [.ofString "7", .ofString "x"]))) {} =
        .ok ⟨.dataset (.ofCells [.ofString "7", .ofString "x"]), {}⟩ ∧
      Dataset.SameFound "t" "x" (.ofCells [.ofString "x", .ofString "1,50"])
        (.ofCells [.ofString "7", .ofString "x"]) ∧
      SameAnswers "t" "x" ⟨.dataset (.ofCells [.ofString "x", .ofString "1,50"]), {}⟩
        ⟨.dataset (.ofCells [.ofString "7", .ofString "x"]), {}⟩ := by
  have he : Explorer.open (some (.dataset (.ofCells [.ofString "x", .ofString "1,50"]))) {} =
      .ok ⟨.dataset (.ofCells [.ofString "x", .ofString "1,50"]), {}⟩ := by rfl
  have he' : Explorer.open (some (.dataset (.ofCells [.ofString "7", .ofString "x"]))) {} =
      .ok ⟨.dataset (.ofCells [.ofString "7", .ofString "x"]), {}⟩ := by rfl
  have hfound : Dataset.SameFound "t" "x" (.ofCells [.ofString "x", .ofString "1,50"])
      (.ofCells [.ofString "7", .ofString "x"]) := by
    refine ⟨.cons ⟨rfl, rfl, rfl, fun hother => ?_, fun _ search hsearch => ?_⟩ .nil, rfl, rfl⟩
    · exact absurd hother (by decide +kernel)
    · have hcells : ∀ cells : List Cell, cells = [.ofString "x", .ofString "1,50"] ∨
          cells = [.ofString "7", .ofString "x"] →
          (Search.ofQuery ["a"] "x").toOption.map (fun search =>
            (search.matching (Table.ofCells cells).relation).map (·.cells)) =
          some [[.ofString "x"]] := by
        rintro cells (rfl | rfl)
        · decide +kernel
        · decide +kernel
      have hcells' := hcells _ (.inr rfl)
      have hcells := hcells _ (.inl rfl)
      rw [show Search.ofQuery ["a"] "x" = .ok search from hsearch] at hcells hcells'
      exact (Option.some.inj hcells).trans (Option.some.inj hcells').symm
  exact ⟨he, he', hfound, sameAnswers_of_sameFound he he' hfound⟩

end Explorer

end TableExplorer
