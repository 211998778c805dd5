import Mathlib
import TableExplorer.Catalogue
import TableExplorer.Dataset.Statement
import TableExplorer.View.Search

/-!
What statements read from, in one dataset and in two that differ in what a search does not find.

* `Dataset.relations_eq`: the catalogue and the tables come before all else that can be read from.
* `Contents.source_eq_ok_iff`: a statement reads the relation of its table if its records can be
  read.
* `Contents.tableExists_dataset`, `Contents.firstTable?_dataset`: tables are found by their exact
  names.
* `Dataset.SameFound`: two datasets of the same tables, columns and views; the records of one table
  may differ as long as a search finds the same in it, and those of all others are the same.
* `Dataset.SameFound.columns_eq`, `Dataset.SameFound.attachmentTable?_eq`: **names are the same** in
  such datasets; `Dataset.SameFound.exists_relation?`, `Dataset.SameFound.relation?_eq`: and **so is
  what a statement can find** in the one table and in the others.
-/

namespace TableExplorer

/-! ### Lists that agree item by item -/

section

variable {α β γ : Type} {R : α → β → Prop} {xs : List α} {ys : List β}

/-- The first items that a test picks from lists that agree. -/
lemma rel_find? {p : α → Bool} {q : β → Bool} (hpq : ∀ x y, R x y → p x = q y)
    (h : List.Forall₂ R xs ys) : Option.Rel R (xs.find? p) (ys.find? q) := by
  induction h with
  | nil => exact .none
  | @cons x y xs ys hxy _ ih =>
      rw [List.find?_cons, List.find?_cons, ← hpq x y hxy]
      cases p x with
      | true => exact .some hxy
      | false => exact ih

/-- What is made of the items and their places is the same if it is so for each. -/
lemma mapIdx_eq_of_forall₂ {f : Nat → α → γ} {g : Nat → β → γ}
    (hfg : ∀ i x y, R x y → f i x = g i y) (h : List.Forall₂ R xs ys) :
    xs.mapIdx f = ys.mapIdx g := by
  induction h generalizing f g with
  | nil => rfl
  | @cons x y xs ys hxy _ ih =>
      rw [List.mapIdx_cons, List.mapIdx_cons, hfg 0 x y hxy, ih fun i => hfg (i + 1)]

/-- What is made of the items is the same if it is so for each. -/
lemma map_eq_of_forall₂ {f : α → γ} {g : β → γ} (hfg : ∀ x y, R x y → f x = g y)
    (h : List.Forall₂ R xs ys) : xs.map f = ys.map g := by
  induction h with
  | nil => rfl
  | @cons x y xs ys hxy _ ih => rw [List.map_cons, List.map_cons, hfg x y hxy, ih]

end

/-! ### What can be read from -/

namespace Dataset

/-- The catalogue under its two names, and the tables. -/
def tableRelations (d : Dataset) : List (String × Relation) :=
  ("sqlite_master", d.catalogue.relation) :: ("sqlite_schema", d.catalogue.relation) ::
    d.tables.map fun t => (t.name, t.relation)

/-- What views can show besides other views: the catalogue, the tables and the modules. -/
def baseRelations (d : Dataset) : List (String × Relation) := d.tableRelations ++ d.moduleRelations

/-- What can be read from once a view is there, too. -/
def addView (known : List (String × Relation)) (v : View) : List (String × Relation) :=
  match known.find? fun entry => sameName entry.1 v.table with
  | some (_, rel) => known ++ [(v.name, viewOf rel)]
  | none => known

/-- The views come one after the other. -/
lemma relations_eq_foldl (d : Dataset) :
    d.relations = d.viewRounds.foldl addView d.baseRelations ++ temporaryRelations := rfl

/-- Views are put behind what is known before them. -/
lemma foldl_addView_eq (views : List View) (known : List (String × Relation)) :
    ∃ shown, views.foldl addView known = known ++ shown := by
  induction views generalizing known with
  | nil => exact ⟨[], (List.append_nil known).symm⟩
  | cons v rest ih =>
      rw [List.foldl_cons, addView]
      split
      · rename_i rel hrel
        obtain ⟨more, hmore⟩ := ih (known ++ [(v.name, viewOf rel)])
        refine ⟨(v.name, viewOf rel) :: more, ?_⟩
        rw [hmore, List.append_assoc]
        rfl
      · exact ih known

/-- The catalogue and the tables come before all else. -/
lemma relations_eq (d : Dataset) : ∃ others, d.relations = d.tableRelations ++ others := by
  obtain ⟨shown, hshown⟩ := foldl_addView_eq d.viewRounds d.baseRelations
  refine ⟨d.moduleRelations ++ shown ++ temporaryRelations, ?_⟩
  rw [relations_eq_foldl, hshown, baseRelations, List.append_assoc, List.append_assoc,
    List.append_assoc]

/-- A module that can be read from is one of the modules. -/
lemma exists_of_mem_moduleRelations {d : Dataset} {entry : String × Relation}
    (h : entry ∈ d.moduleRelations) :
    ∃ m ∈ d.modules, m.name = entry.1 ∧ m.relation? = some entry.2 := by
  obtain ⟨m, hm, hentry⟩ := List.mem_filterMap.mp h
  split at hentry
  · cases hentry
  · obtain ⟨rel, hrel, rfl⟩ := Option.map_eq_some_iff.mp hentry
    exact ⟨m, hm, rfl, hrel⟩

/-- What holds of the catalogue and the tables, of the modules and of the temporary catalogue, and
of a view if it holds of what the view shows, holds of all that can be read from. -/
lemma forall_mem_relations {d : Dataset} {p : String × Relation → Prop}
    (htables : ∀ entry ∈ d.tableRelations, p entry)
    (hmodules : ∀ m ∈ d.modules, ∀ rel, m.relation? = some rel → p (m.name, rel))
    (htemporary : ∀ entry ∈ temporaryRelations, p entry)
    (hviews : ∀ v ∈ d.views, ∀ entry, p entry → p (v.name, viewOf entry.2)) :
    ∀ entry ∈ d.relations, p entry := by
  have hbase : ∀ entry ∈ d.baseRelations, p entry := by
    intro entry hentry
    rcases List.mem_append.mp hentry with hentry | hentry
    · exact htables entry hentry
    · obtain ⟨m, hm, hname, hrel⟩ := exists_of_mem_moduleRelations hentry
      have hmodule := hmodules m hm _ hrel
      rw [hname] at hmodule
      exact hmodule
  rw [relations_eq_foldl]
  refine fun entry hentry => (List.mem_append.mp hentry).elim ?_ (htemporary entry)
  refine List.foldlRecOn (motive := fun known => ∀ entry ∈ known, p entry) d.viewRounds addView
    hbase (fun known hknown v hv => ?_) entry
  obtain ⟨views, hround, hv⟩ := List.mem_flatten.mp hv
  obtain rfl := List.eq_of_mem_replicate hround
  rw [addView]
  split
  · rename_i shown hshown
    intro entry hentry
    rcases List.mem_append.mp hentry with hentry | hentry
    · exact hknown entry hentry
    · rw [List.mem_singleton.mp hentry]
      exact hviews v hv _ (hknown _ (List.mem_of_find?_eq_some hshown))
  · exact hknown

/-- Under the name of a table, the catalogue or a table is found. -/
lemma exists_find?_tableRelations {d : Dataset} {t : Table} (ht : t ∈ d.tables) {name : String}
    (hname : sameName t.name name = true) :
    ∃ entry, d.tableRelations.find? (fun entry => sameName entry.1 name) = some entry ∧
      d.relation? name = some entry.2 := by
  obtain ⟨entry, hentry⟩ : ∃ entry,
      d.tableRelations.find? (fun entry => sameName entry.1 name) = some entry := by
    refine Option.isSome_iff_exists.mp (List.find?_isSome.mpr ⟨(t.name, t.relation), ?_, hname⟩)
    exact List.mem_cons_of_mem _ (List.mem_cons_of_mem _
      (List.mem_map_of_mem (f := fun t : Table => (t.name, t.relation)) ht))
  obtain ⟨views, hviews⟩ := d.relations_eq
  refine ⟨entry, hentry, ?_⟩
  rw [relation?, hviews, List.find?_append, hentry]
  rfl

/-- The only table is found by its name, unless this is a name of the catalogue. -/
lemma relation?_of_only {t : Table} (hmaster : sameName "sqlite_master" t.name = false)
    (hschema : sameName "sqlite_schema" t.name = false) :
    relation? (.ofTables [t]) t.name = some t.relation := by
  have hown : sameName t.name t.name = true := beq_self_eq_true _
  obtain ⟨others, hothers⟩ := relations_eq (.ofTables [t])
  have htables : (ofTables [t]).tables = [t] := rfl
  rw [relation?, hothers, tableRelations, htables]
  simp only [List.cons_append, List.find?_cons, hmaster, hschema, List.map_cons, hown]
  rfl

end Dataset

/-- A statement reads the relation that its table name finds, if its records can be read. -/
lemma Contents.source_eq_ok_iff {d : Dataset} {table : Identifier} {rel : Relation} :
    Contents.source (.dataset d) table = .ok rel ↔
      d.relation? table.name = some rel ∧ rel.failure? = none := by
  rw [Contents.source]
  split
  · rename_i other hother
    rw [hother, Option.some.injEq]
    split
    · rename_i hreadable
      rw [Except.ok.injEq]
      exact ⟨fun h => ⟨h, h ▸ hreadable⟩, And.left⟩
    · rename_i detail hfailure
      refine iff_of_false nofun fun h => ?_
      rw [h.1, h.2] at hfailure
      cases hfailure
  · rename_i hnone
    simp only [hnone, reduceCtorEq, false_and]

/-- Limits are accepted if they fit into a word. -/
lemma checkLimit_eq_ok_iff {limit : Nat} :
    checkLimit limit = .ok () ↔ limit < Word.signedBound := by
  rw [checkLimit, ite_eq_left_iff, not_imp_comm]
  simp only [reduceCtorEq, not_false_eq_true, true_implies]

/-! ### The names of tables -/

namespace Contents

variable {d : Dataset} {names : List String} {name : String}

/-- A table is found by its exact name. -/
lemma tableExists_dataset (d : Dataset) (name : String) :
    (Contents.dataset d).tableExists name = .ok (decide (name ∈ d.tables.map (·.name))) := by
  refine congrArg Except.ok ?_
  rw [Bool.eq_iff_iff, decide_eq_true_iff, List.any_eq_true, List.mem_map]
  exact exists_congr fun t => and_congr_right fun _ => beq_iff_eq

/-- The first table of some names is the first of them that is the name of a table. -/
lemma firstTable?_dataset (d : Dataset) (names : List String) :
    (Contents.dataset d).firstTable? names =
      .ok (names.find? fun name => name ∈ d.tables.map (·.name)) := by
  induction names with
  | nil => rfl
  | cons name names ih =>
      rw [firstTable?, tableExists_dataset, List.find?_cons, ih]
      cases decide (name ∈ d.tables.map (·.name)) <;> rfl

/-- The first table of some names has one of these names. -/
lemma firstTable?_eq_some (h : (Contents.dataset d).firstTable? names = .ok (some name)) :
    name ∈ names ∧ ∃ t ∈ d.tables, t.name = name := by
  rw [firstTable?_dataset, Except.ok.injEq] at h
  have hname := List.find?_some h
  rw [decide_eq_true_iff, List.mem_map] at hname
  exact ⟨List.mem_of_find?_eq_some h, hname⟩

end Contents

/-! ### Relations in which the same is found -/

/-- Two relations have the same columns with the same collations, both or neither have numbers for
their records, and the records of both can be read, or cannot for the same reason. -/
structure Relation.SameShape (rel rel' : Relation) : Prop where
  columns : rel.columns = rel'.columns
  numbered : rel.numbered = rel'.numbered
  collations : rel.collations = rel'.collations
  failure : rel.failure? = rel'.failure?

/-- A search finds records with the same cells, in the same order, in two relations. -/
structure Relation.SameFound (search : Search) (rel rel' : Relation) : Prop
    extends rel.SameShape rel' where
  found : (search.matching rel).map (·.cells) = (search.matching rel').map (·.cells)

/-- A relation is as it is. -/
lemma Relation.SameShape.refl (rel : Relation) : rel.SameShape rel := ⟨rfl, rfl, rfl, rfl⟩

/-- The same is found in the same relation. -/
lemma Relation.SameFound.refl (search : Search) (rel : Relation) : rel.SameFound search rel :=
  ⟨.refl rel, rfl⟩

/-- Two states of a table: the same records, unless it is the table of this name, in which a search
for the query finds the same. -/
structure Table.SameFound (table query : String) (t t' : Table) : Prop where
  name : t.name = t'.name
  columns : t.columns = t'.columns
  details : t.details = t'.details
  records : sameName t.name table = false → t.records = t'.records
  found : sameName t.name table = true → ∀ search,
    Search.ofQuery (columnNames t.columns) query = .ok search →
      (search.matching t.relation).map (·.cells) = (search.matching t'.relation).map (·.cells)

/-- Two datasets of the same schema with the same records in all tables but the one of this name, in
which a search for the query finds the same. -/
structure Dataset.SameFound (table query : String) (d d' : Dataset) : Prop where
  tables : List.Forall₂ (Table.SameFound table query) d.tables d'.tables
  views : d.views = d'.views
  modules : d.modules = d'.modules

/-- Two relations under one name: the same ones, unless it is this name, under which a search for
the query finds the same. -/
structure SameEntry (table query : String) (entry entry' : String × Relation) : Prop where
  name : entry.1 = entry'.1
  shape : entry.2.SameShape entry'.2
  other : sameName entry.1 table = false → entry.2 = entry'.2
  found : sameName entry.1 table = true → ∀ search,
    Search.ofQuery (columnNames entry.2.columns) query = .ok search →
      entry.2.SameFound search entry'.2

/-- Two states of a table are read as such relations. -/
lemma Table.SameFound.sameEntry {table query : String} {t t' : Table}
    (h : t.SameFound table query t') :
    SameEntry table query (t.name, t.relation) (t'.name, t'.relation) := by
  have hshape : t.relation.SameShape t'.relation :=
    ⟨h.columns, rfl, congrArg TableDetails.collations h.details, rfl⟩
  refine ⟨h.name, hshape, fun hother => ?_, fun hsame search hsearch => ?_⟩
  · show Table.relation t = Table.relation t'
    rw [Table.relation, Table.relation, h.columns, h.records hother, h.details]
  · exact ⟨hshape, h.found hsame search hsearch⟩

/-- One relation under one name. -/
lemma SameEntry.refl (table query : String) (entry : String × Relation) :
    SameEntry table query entry entry :=
  ⟨rfl, .refl _, fun _ => rfl, fun _ search _ => .refl search _⟩

namespace Dataset.SameFound

variable {table query : String} {d d' : Dataset} (h : d.SameFound table query d')

include h

/-! ### The same names -/

/-- The tables have the same names. -/
lemma tableNames_eq : d.tables.map (·.name) = d'.tables.map (·.name) :=
  map_eq_of_forall₂ (fun _ _ ht => ht.name) h.tables

/-- The views are the same. -/
lemma viewRounds_eq : d.viewRounds = d'.viewRounds := by
  rw [viewRounds, viewRounds, h.views]

/-- The catalogue tells of names and columns only. -/
lemma catalogue_eq : d.catalogue = d'.catalogue := by
  have htables : ∀ i (t t' : Table), t.SameFound table query t' →
      [Cell.ofString "table", .ofString t.name, .ofString t.name,
          .integer (.ofNat (i + firstPage)), .ofString (creation t)] =
        [Cell.ofString "table", .ofString t'.name, .ofString t'.name,
          .integer (.ofNat (i + firstPage)), .ofString (creation t')] := by
    intro i t t' ht
    rw [creation, creation, ht.name, ht.columns, ht.details]
  rw [catalogue, catalogue, ← h.views]
  dsimp only
  rw [mapIdx_eq_of_forall₂ htables h.tables]

/-- The catalogue and the tables, one by one. -/
lemma tableRelations_sameEntry :
    List.Forall₂ (SameEntry table query) d.tableRelations d'.tableRelations := by
  rw [tableRelations, tableRelations, ← h.catalogue_eq]
  refine .cons (.refl ..) (.cons (.refl ..) ?_)
  rw [List.forall₂_map_left_iff, List.forall₂_map_right_iff]
  exact h.tables.imp fun _ _ ht => ht.sameEntry

/-- The modules are the same. -/
lemma moduleRelations_eq : d.moduleRelations = d'.moduleRelations := by
  have hview : d.hasView = d'.hasView := funext fun name => by rw [hasView, hasView, h.views]
  rw [moduleRelations, moduleRelations, ← h.modules, hview]

/-- What can be read from has the same names and shapes. -/
lemma relations_sameShape :
    List.Forall₂ (fun entry entry' : String × Relation =>
      entry.1 = entry'.1 ∧ entry.2.SameShape entry'.2) d.relations d'.relations := by
  have hself : ∀ entries : List (String × Relation), List.Forall₂
      (fun entry entry' => entry.1 = entry'.1 ∧ entry.2.SameShape entry'.2) entries entries :=
    fun entries => List.forall₂_same.mpr fun _ _ => ⟨rfl, .refl _⟩
  rw [relations_eq_foldl, relations_eq_foldl, ← h.viewRounds_eq]
  refine List.rel_append ?_ (hself temporaryRelations)
  have htables : List.Forall₂ (fun entry entry' : String × Relation =>
      entry.1 = entry'.1 ∧ entry.2.SameShape entry'.2) d.baseRelations d'.baseRelations := by
    rw [baseRelations, baseRelations, ← h.moduleRelations_eq]
    exact List.rel_append (h.tableRelations_sameEntry.imp fun _ _ hentry =>
      And.intro hentry.name hentry.shape) (hself d.moduleRelations)
  generalize d.baseRelations = known at htables
  generalize d'.baseRelations = known' at htables
  generalize d.viewRounds = views
  -- each view finds relations of the same shape in what is known before it
  induction views generalizing known known' with
  | nil => exact htables
  | cons v rest ih =>
      refine ih _ _ ?_
      have hfound := rel_find? (p := fun entry => sameName entry.1 v.table)
        (q := fun entry => sameName entry.1 v.table) (fun _ _ hentry => by rw [hentry.1]) htables
      rw [addView, addView]
      generalize known.find? _ = found at hfound ⊢
      generalize known'.find? _ = found' at hfound ⊢
      cases hfound with
      | none => exact htables
      | some hentry =>
          refine List.rel_append htables (.cons ⟨rfl, ?_⟩ .nil)
          exact ⟨congrArg (List.map viewColumn) hentry.2.columns, rfl, hentry.2.collations,
            hentry.2.failure⟩

/-- Under each name, relations of one shape are found, or none. -/
lemma relation?_sameShape (name : String) :
    Option.Rel Relation.SameShape (d.relation? name) (d'.relation? name) := by
  have hfound := rel_find? (p := fun entry => sameName entry.1 name)
    (q := fun entry => sameName entry.1 name) (fun _ _ hentry => by rw [hentry.1])
    h.relations_sameShape
  rw [relation?, relation?]
  generalize d.relations.find? _ = found at hfound ⊢
  generalize d'.relations.find? _ = found' at hfound ⊢
  cases hfound with
  | none => exact .none
  | some hentry => exact .some hentry.2

/-- **The columns** of each table are the same. -/
lemma columns_eq (name : String) :
    Contents.columns (.dataset d) name = Contents.columns (.dataset d') name := by
  have hshape := h.relation?_sameShape (String.ofList (Pattern.beforeNul name.toList))
  simp only [Contents.columns, Contents.read, bind, Except.bind, isDeclared, hasView, h.views,
    h.modules]
  generalize d.relation? _ = found at hshape ⊢
  generalize d'.relation? _ = found' at hshape ⊢
  cases hshape with
  | none => rfl
  | some hshape => simp only [hshape.columns]

/-- **The attachment table** of each table is the same. -/
lemma attachmentTable?_eq (config : Config) (base : String) :
    Contents.attachmentTable? (.dataset d) config base =
      Contents.attachmentTable? (.dataset d') config base := by
  rw [Contents.attachmentTable?, Contents.attachmentTable?, Contents.firstTable?_dataset,
    Contents.firstTable?_dataset, h.tableNames_eq]

/-! ### The same records -/

/-- Without a table of the name, the datasets are the same. -/
lemma eq_of_forall_not (hnone : ∀ t ∈ d.tables, sameName t.name table = false) : d = d' := by
  obtain ⟨tables, views, modules⟩ := d
  obtain ⟨tables', views', modules'⟩ := d'
  obtain ⟨htables, hviews, hmodules⟩ := h
  dsimp only at htables hviews hmodules hnone
  rw [hviews, hmodules, Dataset.mk.injEq]
  refine ⟨?_, rfl, rfl⟩
  induction htables with
  | nil => rfl
  | @cons t t' tables tables' ht _ ih =>
      have hsame : t = t' := by
        obtain ⟨name, columns, records, details⟩ := t
        obtain ⟨name', columns', records', details'⟩ := t'
        rw [Table.mk.injEq]
        exact ⟨ht.name, ht.columns, ht.records (hnone _ List.mem_cons_self), ht.details⟩
      rw [hsame, ih fun t ht => hnone t (List.mem_cons_of_mem _ ht)]

/-- **What a search finds in the one table** is the same. -/
lemma exists_relation? {rel : Relation} {search : Search} (hrel : d.relation? table = some rel)
    (hsearch : Search.ofQuery (columnNames rel.columns) query = .ok search) :
    ∃ rel', d'.relation? table = some rel' ∧ rel.SameFound search rel' := by
  by_cases hnone : ∀ t ∈ d.tables, sameName t.name table = false
  · rw [← h.eq_of_forall_not hnone]
    exact ⟨rel, hrel, .refl search rel⟩
  · obtain ⟨t, ht, hname⟩ : ∃ t ∈ d.tables, sameName t.name table = true := by
      simpa using hnone
    obtain ⟨entry, hentry, hfound⟩ := exists_find?_tableRelations ht hname
    obtain rfl : entry.2 = rel := Option.some.inj (hfound.symm.trans hrel)
    obtain ⟨t', ht', hname'⟩ : ∃ t' ∈ d'.tables, sameName t'.name table = true := by
      have hmem : t.name ∈ d'.tables.map (·.name) := h.tableNames_eq ▸ List.mem_map_of_mem ht
      obtain ⟨t', ht', hsame⟩ := List.mem_map.mp hmem
      exact ⟨t', ht', hsame ▸ hname⟩
    obtain ⟨entry', hentry', hfound'⟩ := exists_find?_tableRelations ht' hname'
    have hentries := rel_find? (p := fun entry => sameName entry.1 table)
      (q := fun entry => sameName entry.1 table) (fun _ _ hentry => by rw [hentry.name])
      h.tableRelations_sameEntry
    rw [hentry, hentry', Option.rel_some_some] at hentries
    refine ⟨entry'.2, hfound', hentries.found ?_ search hsearch⟩
    simpa using List.find?_some hentry

/-- **Every other table** is the same. -/
lemma relation?_eq {t : Table} (ht : t ∈ d.tables) (hother : sameName t.name table = false) :
    d.relation? t.name = d'.relation? t.name := by
  have hself : sameName t.name t.name = true := beq_self_eq_true _
  obtain ⟨entry, hentry, hfound⟩ := exists_find?_tableRelations ht hself
  obtain ⟨t', ht', hname'⟩ := List.mem_map.mp
    (h.tableNames_eq ▸ List.mem_map_of_mem (f := fun t : Table => t.name) ht)
  have hself' : sameName t'.name t.name = true := hname' ▸ hself
  obtain ⟨entry', hentry', hfound'⟩ := exists_find?_tableRelations ht' hself'
  have hentries := rel_find? (p := fun entry => sameName entry.1 t.name)
    (q := fun entry => sameName entry.1 t.name) (fun _ _ hentry => by rw [hentry.name])
    h.tableRelations_sameEntry
  rw [hentry, hentry', Option.rel_some_some] at hentries
  have hname : sameName entry.1 t.name = true := by
    simpa using List.find?_some hentry
  have houtside : sameName entry.1 table = false := by
    rw [sameName, beq_iff_eq] at hname
    rw [sameName, hname, ← sameName]
    exact hother
  rw [hfound, hfound', hentries.other houtside]

end Dataset.SameFound

end TableExplorer
