import TableExplorer.Proofs.Dashboard.MergeOrder
import TableExplorer.Proofs.Dataset.Wildcards
import TableExplorer.Proofs.Text.ByteOrder

/-!
The names of tables.  There are two ways to find a table: it is in the list of tables, or it is
looked up by its name.  The list leaves out internal tables, whose names begin with `sqlite_`, by a
pattern in which the underscore stands for any character; so it also leaves out tables whose names
begin with `sqlite` and some other character.

* `IsInternalName`, `IsMistakenName`: the names that should be left out, and those that are left out
  as well; `accepts_internalPattern_iff`: **the pattern accepts both**.
* `Contents.mem_tableNames_iff`: the tables that are listed.
* `Explorer.mem_tables_iff`: **the two ways agree** on every name that is not mistaken.
-/

namespace TableExplorer

/-! ### Internal names -/

/-- A name that is kept for internal tables begins with `sqlite_`, whatever the case of ASCII
letters. -/
def IsInternalName (name : String) : Prop := "sqlite_".toList <+: asciiLower name.toList

/-- A name that is mistaken for an internal one begins with `sqlite` and a character other than the
underscore. -/
def IsMistakenName (name : String) : Prop :=
  ∃ c, c ≠ '_' ∧ c ≠ '\x00' ∧ "sqlite".toList ++ [c] <+: asciiLower name.toList

/-- Letters that are small agree with a text letter by letter if they are the text in small
letters. -/
lemma forall₂_sameLetter_asciiLower {letters part : List Char}
    (h : ∀ c ∈ letters, c.toLower = c) :
    List.Forall₂ (fun c d => Pattern.sameLetter c d = true) letters part ↔
      asciiLower part = letters := by
  induction letters generalizing part with
  | nil => rw [List.forall₂_nil_left_iff, asciiLower, List.map_eq_nil_iff]
  | cons c letters ih =>
      cases part with
      | nil => simp [asciiLower]
      | cons d part =>
          rw [List.forall₂_cons, ih fun c hc => h c (List.mem_cons_of_mem _ hc),
            Pattern.sameLetter, h c List.mem_cons_self, beq_iff_eq, asciiLower, asciiLower,
            List.map_cons, List.cons.injEq, eq_comm]

/-- Any one character and any others match the texts that are not empty. -/
lemma matchesChars_anyChar_anyText {cs : List Char} :
    Pattern.matchesChars [.anyChar, .anyText] cs = true ↔ cs ≠ [] := by
  cases cs with
  | nil => simp [Pattern.matchesChars]
  | cons c rest =>
      rw [Pattern.matchesChars]
      exact iff_of_true (Pattern.matchesChars_anyText_nil rest) (List.cons_ne_nil c rest)

/-- A text begins with a piece and one more character before its first NUL character if it begins
with both, and neither is one. -/
lemma exists_beforeNul_eq {part cs : List Char} (h : '\x00' ∉ part) :
    (∃ rest, Pattern.beforeNul cs = part ++ rest ∧ rest ≠ []) ↔
      ∃ c rest, c ≠ '\x00' ∧ cs = part ++ c :: rest := by
  constructor
  · rintro ⟨rest, heq, hne⟩
    obtain ⟨c, rest, rfl⟩ := List.exists_cons_of_ne_nil hne
    have hc : c ∈ Pattern.beforeNul cs := heq ▸ List.mem_append_right _ List.mem_cons_self
    refine ⟨c, rest ++ cs.dropWhile (· != '\x00'), ?_, ?_⟩
    · simpa using List.mem_takeWhile_imp hc
    · rw [← List.cons_append, ← List.append_assoc, ← heq, Pattern.beforeNul,
        List.takeWhile_append_dropWhile]
  · rintro ⟨c, rest, hc, rfl⟩
    refine ⟨c :: Pattern.beforeNul rest, ?_, List.cons_ne_nil _ _⟩
    have hpart : ∀ d ∈ part, (d != '\x00') = true := fun d hd =>
      bne_iff_ne.mpr (ne_of_mem_of_not_mem hd h)
    rw [Pattern.beforeNul, List.takeWhile_append_of_pos hpart,
      List.takeWhile_cons_of_pos (by simpa using hc), Pattern.beforeNul]

/-- **The pattern of internal names** accepts the names that are internal, and those that are
mistaken for such. -/
lemma accepts_internalPattern_iff (name : String) :
    Pattern.accepts none Contents.internalPattern name = true ↔
      IsInternalName name ∨ IsMistakenName name := by
  have hitems : Pattern.ofText? none Contents.internalPattern.toList =
      some ("sqlite".toList.map .literal ++ [.anyChar, .anyText]) := by
    simp [Pattern.ofText?, Contents.internalPattern]
  have hsmall : ∀ c ∈ "sqlite".toList, c.toLower = c := by simp
  have hmatch : Pattern.accepts none Contents.internalPattern name = true ↔
      ∃ part, asciiLower part = "sqlite".toList ∧
        ∃ rest, Pattern.beforeNul name.toList = part ++ rest ∧ rest ≠ [] := by
    rw [Pattern.accepts, hitems]
    dsimp only
    rw [Pattern.matchesChars_literals]
    constructor
    · rintro ⟨part, rest, heq, hpart, hrest⟩
      exact ⟨part, (forall₂_sameLetter_asciiLower hsmall).mp hpart, rest, heq,
        matchesChars_anyChar_anyText.mp hrest⟩
    · rintro ⟨part, hpart, rest, heq, hrest⟩
      exact ⟨part, rest, heq, (forall₂_sameLetter_asciiLower hsmall).mpr hpart,
        matchesChars_anyChar_anyText.mpr hrest⟩
  have hbegin : (∃ part, asciiLower part = "sqlite".toList ∧
        ∃ rest, Pattern.beforeNul name.toList = part ++ rest ∧ rest ≠ []) ↔
      ∃ c, c ≠ '\x00' ∧ "sqlite".toList ++ [c] <+: asciiLower name.toList := by
    have hnul : ∀ part, asciiLower part = "sqlite".toList → '\x00' ∉ part := by
      intro part hpart hmem
      have hsqlite := Identifier.nul_mem_asciiLower.mpr hmem
      rw [hpart] at hsqlite
      exact absurd hsqlite (by decide)
    constructor
    · rintro ⟨part, hpart, h⟩
      obtain ⟨c, rest, hc, heq⟩ := (exists_beforeNul_eq (hnul part hpart)).mp h
      refine ⟨c.toLower, fun hlow => hc (Text.eq_nul_of_toLower hlow), asciiLower rest, ?_⟩
      rw [heq, ← hpart, asciiLower, asciiLower, asciiLower, List.map_append, List.map_cons,
        List.append_assoc, List.singleton_append]
    · rintro ⟨c, hc, suffix, h⟩
      rw [asciiLower, eq_comm, List.map_eq_append_iff] at h
      obtain ⟨begun, rest, heq, hbegun, -⟩ := h
      obtain ⟨part, last, rfl, hpart, hlast⟩ := List.map_eq_append_iff.mp hbegun
      obtain ⟨d, rfl, hd⟩ := List.map_eq_singleton_iff.mp hlast
      refine ⟨part, hpart, (exists_beforeNul_eq (hnul part hpart)).mpr ⟨d, rest, ?_, ?_⟩⟩
      · rintro rfl
        exact hc (hd ▸ by decide)
      · rw [heq, List.append_assoc, List.singleton_append]
  rw [hmatch, hbegin, IsInternalName, IsMistakenName]
  constructor
  · rintro ⟨c, hc, h⟩
    by_cases hunder : c = '_'
    · subst hunder
      exact Or.inl h
    · exact Or.inr ⟨c, hunder, hc, h⟩
  · rintro (h | ⟨c, -, hc, h⟩)
    · exact ⟨'_', by decide, h⟩
    · exact ⟨c, hc, h⟩

/-! ### The two ways -/

namespace Contents

variable {d : Dataset} {names : List String} {name : String}

/-- The tables that are listed are those whose names are neither internal nor mistaken. -/
lemma mem_tableNames_iff (h : (Contents.dataset d).tableNames = .ok names) :
    name ∈ names ↔
      name ∈ d.tables.map (·.name) ∧ ¬IsInternalName name ∧ ¬IsMistakenName name := by
  obtain rfl := Except.ok.inj h
  rw [(sortBy_perm _ _).mem_iff, List.mem_filter, Bool.not_eq_true', ← Bool.not_eq_true,
    accepts_internalPattern_iff, not_or]

/-- The names of different tables are listed in the order of their bytes. -/
lemma tableNames_pairwise (hnames : (d.tables.map (·.name)).Nodup)
    (h : (Contents.dataset d).tableNames = .ok names) :
    names.Pairwise fun a b => Text.Utf8.encode a.toList < Text.Utf8.encode b.toList := by
  obtain rfl := Except.ok.inj h
  have hle := sortBy_compareText_pairwise id ((d.tables.map (·.name)).filter fun name =>
    !Pattern.accepts none internalPattern name)
  have hne := (sortBy_perm compareText _).nodup_iff.mpr
    (hnames.filter fun name => !Pattern.accepts none internalPattern name)
  refine (hle.and hne).imp fun {a b} hab => ?_
  exact Text.Utf8.encode_lt_encode (String.lt_iff.mp (lt_of_le_of_ne hab.1 hab.2))

end Contents

namespace Explorer

/-- **The two ways agree**: a table whose name is not mistaken for an internal one is listed if and
only if it is found by its name and its name is not internal.  The list is in the order of the bytes
of the names, without repetition; and the dashboard of all tables is made of those that are listed,
hold no attachments, and can be summarised. -/
theorem mem_tables_iff (d : Dataset) (config : Config) (query : String)
    (hnames : (d.tables.map (·.name)).Nodup) :
    let e : Explorer := ⟨.dataset d, config⟩
    ∃ (names : List String) (all : Aggregate),
      e.tables = .ok names ∧ e.summarizeAll query = .ok all ∧
      names.Pairwise (fun a b => Text.Utf8.encode a.toList < Text.Utf8.encode b.toList) ∧
      (∀ name, e.tableExists name = .ok (decide (name ∈ d.tables.map (·.name)))) ∧
      (∀ name ∈ names, ¬IsInternalName name) ∧
      (∀ name, ¬IsInternalName name → ¬IsMistakenName name →
        (name ∈ names ↔ e.tableExists name = .ok true)) ∧
      (∀ name, name ∈ all.tables ↔
        name ∈ names ∧ config.isAttachmentTable name = false ∧
          ∃ summary, e.tableSummary name query = .ok summary) := by
  intro e
  obtain ⟨names, htables⟩ : ∃ names, e.tables = .ok names := ⟨_, rfl⟩
  have hbase : e.baseTables = .ok (names.filter fun table => !config.isAttachmentTable table) :=
    Result.bind_eq_ok htables rfl
  have hexists : ∀ name, e.tableExists name = .ok (decide (name ∈ d.tables.map (·.name))) :=
    Contents.tableExists_dataset d
  refine ⟨names, mergeSummaries query (e.summaries query _) (.ofConfig config), htables,
    Result.bind_eq_ok hbase rfl, Contents.tableNames_pairwise hnames htables, hexists,
    fun name hname => ?_, fun name hinternal hmistaken => ?_, fun name => ?_⟩
  · exact ((Contents.mem_tableNames_iff htables).mp hname).2.1
  · rw [Contents.mem_tableNames_iff htables, hexists, Except.ok.injEq, decide_eq_true_iff]
    exact and_iff_left ⟨hinternal, hmistaken⟩
  · rw [mem_tables_mergeSummaries_iff, List.mem_filter, Bool.not_eq_true', and_assoc]

/-- Two tables, the name of one of which begins with `sqlite`. -/
def mistakenTables : Dataset :=
  .ofTables [.ofTexts "sqlite2" ["a"] [["x"]], .ofTexts "obras" ["a"] [["x"]]]

/-- The table `obras` is found, and so it is listed. -/
theorem mem_tables_of_mistakenTables :
    (mistakenTables.tables.map (·.name)).Nodup ∧ ¬IsInternalName "obras" ∧
      ¬IsMistakenName "obras" ∧
      ∃ names, Explorer.tables ⟨.dataset mistakenTables, {}⟩ = .ok names ∧ "obras" ∈ names := by
  have hnames : (mistakenTables.tables.map (·.name)).Nodup := by decide
  have hinternal : ¬IsInternalName "obras" := by simp [IsInternalName, asciiLower]
  have hmistaken : ¬IsMistakenName "obras" := by simp [IsMistakenName, asciiLower]
  obtain ⟨names, -, htables, -, -, -, -, hagree, -⟩ :=
    mem_tables_iff mistakenTables {} "" hnames
  exact ⟨hnames, hinternal, hmistaken, names, htables, (hagree "obras" hinternal hmistaken).mpr rfl⟩

/-- The table `sqlite2` is found, and its name is not internal, but it is not listed. -/
theorem tables_of_mistakenTables :
    ¬IsInternalName "sqlite2" ∧
      Explorer.tableExists ⟨.dataset mistakenTables, {}⟩ "sqlite2" = .ok true ∧
      Explorer.tables ⟨.dataset mistakenTables, {}⟩ = .ok ["obras"] :=
  ⟨by simp [IsInternalName, asciiLower], rfl, rfl⟩

end Explorer

end TableExplorer
