import TableExplorer.Proofs.Catalogue.TableNames
import TableExplorer.Proofs.Text.LowercaseSuffix

/-!
The names of attachment tables.  A table is hidden from the list of base tables if its name ends in
a suffix, whatever the case of letters; the attachment table of a table is looked up under the exact
name of that table and the suffix.  So a table may be hidden and not be found, if its name is
spelled otherwise.  Names in lower case end in the suffixes that names end in, but for a suffix that
begins with a capital sigma; so a table may be found and not be hidden.

* `Config.Attaches`: the name of a table is that of another and a suffix, whatever the case.
* `Config.isAttachmentTable_of_attaches`, `Config.isAttachmentTable_append`: such a table is hidden,
  and one whose name ends in a suffix is.
* `Explorer.isSome_attachmentTable_iff`: **what is hidden and what is found**.
-/

namespace TableExplorer

open Text (EndsWord)

namespace Config

variable {config : Config} {base table suffix : String}

/-- The name of a table is that of another and a suffix, whatever the case of letters. -/
def Attaches (config : Config) (base table : String) : Prop :=
  ∃ suffix ∈ config.attachmentSuffixes,
    Text.lowercase table = Text.lowercase base ++ Text.lowercase suffix

/-- A name ends in a suffix if it does in lower case. -/
lemma hasSuffix_iff {name : String} :
    hasSuffix name suffix = true ↔
      (Text.lowercase suffix).toList <:+ (Text.lowercase name).toList :=
  List.isSuffixOf_iff_suffix

/-- A table is hidden if its name is that of another and a suffix, whatever the case of letters. -/
lemma isAttachmentTable_of_attaches (h : config.Attaches base table) :
    config.isAttachmentTable table = true := by
  obtain ⟨suffix, hsuffix, heq⟩ := h
  refine List.any_eq_true.mpr ⟨suffix, hsuffix, hasSuffix_iff.mpr ?_⟩
  rw [heq, String.toList_append]
  exact List.suffix_append _ _

/-- A table whose name ends in a suffix is hidden, unless the suffix begins with a capital sigma
that ends a word of the name. -/
lemma isAttachmentTable_append (hsuffix : suffix ∈ config.attachmentSuffixes)
    (h : ¬EndsWord base.toList.reverse suffix.toList) :
    config.isAttachmentTable (base ++ suffix) = true :=
  List.any_eq_true.mpr ⟨suffix, hsuffix,
    hasSuffix_iff.mpr ((Text.isSuffix_lowercase_append_iff base suffix).mpr h)⟩

end Config

namespace Explorer

/-- **What is hidden and what is found.**  A table whose name is that of another and a suffix,
whatever the case of letters, is no base table.  An attachment table is found if and only if there
is a table of exactly the name and a suffix; it has such a name, and it is no base table unless the
suffix begins with a capital sigma that ends a word of the name. -/
theorem isSome_attachmentTable_iff (d : Dataset) (config : Config) (base : String) :
    let e : Explorer := ⟨.dataset d, config⟩
    ∃ (names bases : List String) (found? : Option String),
      e.tables = .ok names ∧ e.baseTables = .ok bases ∧ e.attachmentTable? base = .ok found? ∧
      (∀ table ∈ names, config.Attaches base table → table ∉ bases) ∧
      (found?.isSome = true ↔
        ∃ suffix ∈ config.attachmentSuffixes, e.tableExists (base ++ suffix) = .ok true) ∧
      (∀ table, found? = some table → e.tableExists table = .ok true ∧
        ∃ suffix ∈ config.attachmentSuffixes, table = base ++ suffix ∧
          (¬EndsWord base.toList.reverse suffix.toList → table ∉ bases)) := by
  intro e
  obtain ⟨names, htables⟩ : ∃ names, e.tables = .ok names := ⟨_, rfl⟩
  have hbase : e.baseTables = .ok (names.filter fun table => !config.isAttachmentTable table) :=
    Result.bind_eq_ok htables rfl
  have hhidden : ∀ table, config.isAttachmentTable table = true →
      table ∉ names.filter fun table => !config.isAttachmentTable table := by
    intro table h hmem
    have hnot := (List.mem_filter.mp hmem).2
    rw [h] at hnot
    exact absurd hnot (by decide)
  have hexists : ∀ name, e.tableExists name = .ok true ↔ name ∈ d.tables.map (·.name) := by
    intro name
    refine (Eq.congr_left (Contents.tableExists_dataset d name)).trans ?_
    rw [Except.ok.injEq, decide_eq_true_iff]
  have hfound := Contents.firstTable?_dataset d
    (config.attachmentSuffixes.map fun suffix => base ++ suffix)
  refine ⟨names, _, _, htables, hbase, hfound, fun table _ h => ?_, ?_, fun table h => ?_⟩
  · exact hhidden table (Config.isAttachmentTable_of_attaches h)
  · simp only [List.find?_isSome, List.mem_map, exists_exists_and_eq_and, decide_eq_true_iff,
      hexists]
  · obtain ⟨hmem, t, ht, hname⟩ := Contents.firstTable?_eq_some (h ▸ hfound)
    obtain ⟨suffix, hsuffix, rfl⟩ := List.mem_map.mp hmem
    exact ⟨(hexists _).mpr (List.mem_map.mpr ⟨t, ht, hname⟩), suffix, hsuffix, rfl,
      fun hword => hhidden _ (Config.isAttachmentTable_append hsuffix hword)⟩

/-- An explorer of empty tables with the given names. -/
def ofNames (names : List String) (config : Config) : Explorer :=
  ⟨.dataset (.ofTables (names.map fun name => .ofTexts name ["a"] [])), config⟩

/-- A table whose name is spelled as that of its base table and a suffix is hidden, and found. -/
theorem attachmentTable_of_spelledName :
    let e := ofNames ["obras", "obras_files"] {}
    ∃ bases, e.baseTables = .ok bases ∧ "obras_files" ∉ bases ∧
      e.attachmentTable? "obras" = .ok (some "obras_files") := by
  intro e
  obtain ⟨names, bases, found?, htables, hbases, hfound, hhidden, -, -⟩ :=
    isSome_attachmentTable_iff
      (.ofTables (["obras", "obras_files"].map fun name => .ofTexts name ["a"] []))
      {} "obras"
  have hmem : "obras_files" ∈ names := by
    obtain rfl := Except.ok.inj htables
    decide +kernel
  refine ⟨bases, hbases, hhidden "obras_files" hmem ?_, rfl⟩
  exact ⟨"_files", List.mem_cons_self, by decide +kernel⟩

/-- A table whose suffix is spelled in capitals is hidden, but it is not found; and a table whose
suffix is a capital sigma is found, but it is not hidden. -/
theorem attachmentTable_of_capitals :
    let config : Config := { attachmentSuffixes := ["_files", "Σ"] }
    let e := ofNames ["obras", "obras_FILES", "A", "AΣ"] config
    config.check = .ok () ∧ e.tables = .ok ["A", "AΣ", "obras", "obras_FILES"] ∧
      config.Attaches "obras" "obras_FILES" ∧ e.attachmentTable? "obras" = .ok none ∧
      e.attachmentTable? "A" = .ok (some "AΣ") ∧ e.baseTables = .ok ["A", "AΣ", "obras"] := by
  intro config e
  have htables : e.tables = .ok ["A", "AΣ", "obras", "obras_FILES"] := rfl
  have hbases : (["A", "AΣ", "obras", "obras_FILES"].filter fun table =>
      !config.isAttachmentTable table) = ["A", "AΣ", "obras"] := by
    decide +kernel
  exact ⟨rfl, htables, ⟨"_files", List.mem_cons_self, by decide +kernel⟩, rfl, rfl,
    Result.bind_eq_ok htables (congrArg Except.ok hbases)⟩

end Explorer

end TableExplorer
