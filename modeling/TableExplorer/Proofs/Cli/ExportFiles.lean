import TableExplorer.Cli.Outcome
import TableExplorer.Proofs.Failures

/-!
What an export leaves in its directory.  The file of an export is created before a row is read, so
that a request that fails leaves it empty, whatever stood in it; and as a table is never written
without a header, an empty file is left by nothing else.

* `Directory.read?_write_self`, `Directory.read?_write_of_ne`: writing a file changes that file
  only.
* `TableRequest.IsFaulty`, `exists_exportCsv_eq_error_iff`: **which requests fail**.
* `Outcome.IsExport`: what is seen of an export to a file; `Output.isExport_deliver`.
* `run_export`: **what an export leaves** in its directory.
-/

namespace TableExplorer

/-! ### Requests that fail -/

/-- There is something wrong with a request for the rows of a table: the table has no columns, the
text to search for is refused, the column to sort by is none of the table's, or the records cannot
be searched for the text. -/
def TableRequest.IsFaulty (request : TableRequest) (d : Dataset) : Prop :=
  d.columnsOf request.table = [] ∨ IsRefusedText request.query ∨
    (∃ column, request.SortsByUnknown d column) ∨ d.IsUnread request.table request.query

section

variable {d : Dataset} {table : String} {refused : Prop} {unknown : String → Prop} {unread : Prop}
  {α : Type}

/-- A request fails if and only if something is wrong. -/
lemma Ends.exists_eq_error_iff {result : Result α}
    (h : Ends d table refused unknown unread result) :
    (∃ e, result = .error e) ↔
      d.columnsOf table = [] ∨ refused ∨ (∃ column, unknown column) ∨ unread := by
  cases h with
  | unlisted detail hunlisted => simp [hunlisted.columnsOf_eq_nil]
  | missing hlisted hcolumns => simp [hcolumns]
  | refused reason hcolumns hrefused => simp [hrefused]
  | unknown column hcolumns haccepted hunknown =>
      simp only [Except.error.injEq, exists_eq', true_iff]
      exact .inr (.inr (.inl ⟨column, hunknown⟩))
  | unread detail hcolumns haccepted hknown hunread => simp [hunread]
  | served a hcolumns haccepted hknown hread => simp [hcolumns, haccepted, hknown, hread]

/-- Rows are exported if they are read. -/
lemma Explorer.exportCsv_eq_error_iff {e : Explorer} {request : TableRequest} {error : Error} :
    e.exportCsv request = .error error ↔ e.rows request = .error error := by
  rw [exportCsv]
  cases e.rows request with
  | error error' =>
      show (Except.error error' : Result (Nat × String)) = .error error ↔ _
      rw [Except.error.injEq, Except.error.injEq]
  | ok rows => exact iff_of_false (fun h => nomatch h) (fun h => nomatch h)

/-- **An export fails if and only if something is wrong with its request.** -/
lemma exists_exportCsv_eq_error_iff (hd : d.IsNamed) (config : Config) {request : TableRequest}
    (hnul : '\x00' ∉ request.table.toList) :
    (∃ error, (Explorer.mk (.dataset d) config).exportCsv request = .error error) ↔
      request.IsFaulty d := by
  simp only [Explorer.exportCsv_eq_error_iff]
  exact (request.ends hd config hnul).2.1.exists_eq_error_iff

/-- A header is written even if there are no rows. -/
lemma exportText_ne_empty (columns : List String) (rows : List Row) :
    exportText columns rows ≠ "" := by
  intro h
  have hchars := congrArg String.toList h
  rw [exportText, Csv.write, String.toList_ofList, exportRecords, List.flatMap_cons] at hchars
  simp [Csv.writeRecord] at hchars

end

namespace Cli

/-! ### Files -/

namespace Directory

variable {name other : String}

/-- What is written into a file is read from it. -/
lemma read?_write_self (d : Directory) (name content : String) :
    (d.write name content).read? name = some content := by
  have hnone : (d.files.filter fun file => file.1 != name).lookup name = none := by
    rw [List.lookup_eq_none_iff]
    intro file hfile
    rw [bne_comm]
    exact (List.mem_filter.mp hfile).2
  have hlast : [(name, content)].lookup name = some content := by simp
  rw [read?, write, List.lookup_append, hnone, Option.none_or, hlast]

/-- Writing a file leaves all others as they are. -/
lemma read?_write_of_ne (h : other ≠ name) (d : Directory) (content : String) :
    (d.write name content).read? other = d.read? other := by
  have hkept : ∀ files : List (String × String),
      (files.filter fun file => file.1 != name).lookup other = files.lookup other := by
    intro files
    induction files with
    | nil => rfl
    | cons file files ih =>
        by_cases hname : file.1 = name
        · have hother : (other == file.1) = false := by simpa [hname] using h
          rw [List.filter_cons_of_neg (by simp [hname]), List.lookup_cons, hother, ih]
        · rw [List.filter_cons_of_pos (by simpa using hname), List.lookup_cons, List.lookup_cons,
            ih]
  have hnone : [(name, content)].lookup other = none := by
    rw [List.lookup_eq_none_iff, List.forall_mem_singleton]
    simpa using h
  rw [read?, write, List.lookup_append, hkept, hnone, Option.or_none, read?]

end Directory

/-! ### Exports to a file -/

/-- What is seen of an export to a file of this name. -/
structure Outcome.IsExport (o : Outcome) (before : Directory) (name : String)
    (answer : Result (Nat × String)) : Prop where
  /-- No other file is touched. -/
  others : ∀ other, other ≠ name → o.directory.read? other = before.read? other
  /-- The export fails for the reason for which its request fails. -/
  failure : ∀ e, o.failure? = some (.error e) ↔ answer = .error e
  /-- The rows of a request that is served are in the file. -/
  written : ∀ count text, answer = .ok (count, text) → o.directory.read? name = some text
  /-- The file is left empty if and only if the request fails. -/
  empty_iff : o.directory.read? name = some "" ↔ ∃ e, answer = .error e
  /-- So a request that fails leaves the file as it was only if there was nothing in it before. -/
  kept_iff : (∃ e, answer = .error e) →
    (o.directory.read? name = before.read? name ↔ before.read? name = some "")

/-- **An answer that goes to a file** is seen as an export. -/
lemma Output.isExport_deliver {path name : String} (hname : Directory.fileAt? path = some name)
    (d : Directory) {answer : Result (Nat × String)}
    (hanswer : ∀ count text, answer = .ok (count, text) → text ≠ "") :
    (Output.deliver ⟨.file path, (·.2) <$> answer⟩ d).IsExport d name answer := by
  rw [deliver]
  dsimp only
  rw [hname]
  cases answer with
  | error e =>
      refine ⟨fun other hother => Directory.read?_write_of_ne hother d "", fun e' => ?_,
        fun count text htext => (nomatch htext), ?_, fun _ => ?_⟩
      · show some (Failure.error e) = some (Failure.error e') ↔ _
        rw [Option.some_inj, Failure.error.injEq, Except.error.injEq]
      · exact iff_of_true (Directory.read?_write_self d name "") ⟨e, rfl⟩
      · show (d.write name "").read? name = d.read? name ↔ _
        rw [Directory.read?_write_self, eq_comm]
  | ok rows =>
      obtain ⟨count, text⟩ := rows
      refine ⟨fun other hother => Directory.read?_write_of_ne hother d text,
        fun e => iff_of_false (fun h => nomatch h) (fun h => nomatch h), ?_, ?_,
        fun h => nomatch h.choose_spec⟩
      · rintro _ _ ⟨⟩
        exact Directory.read?_write_self d name text
      · refine iff_of_false (fun h => ?_) fun h => nomatch h.choose_spec
        have htext : (d.write name text).read? name = some "" := h
        rw [Directory.read?_write_self, Option.some_inj] at htext
        exact hanswer count text rfl htext

/-- An answer leaves the directory as it is unless it goes to a file that can be created. -/
lemma Output.directory_deliver (o : Output) (d : Directory) :
    (o.deliver d).directory = d ∨ ∃ path name, o.destination = .file path ∧
      Directory.fileAt? path = some name := by
  rw [deliver]
  cases hdestination : o.destination with
  | standardOutput => cases o.content <;> exact .inl rfl
  | file path =>
      cases hname : Directory.fileAt? path with
      | none =>
          refine .inl ?_
          dsimp only
          rw [hname]
      | some name => exact .inr ⟨path, name, rfl, hname⟩

/-- The answer of an export whose dataset is opened. -/
lemma Invocation.output_exportRows {inv : Invocation} {request : TableRequest}
    {out? : Option String} (hcommand : inv.command = .exportRows request out?) {sources : Sources}
    {e : Explorer} (hopen : inv.explorer sources = .ok e) :
    inv.output sources =
      ⟨exportDestination request.table out?, (·.2) <$> e.exportCsv request⟩ := by
  rw [output, hopen, hcommand]
  rfl

/-- **What an export leaves.**  A command line that asks for an export leaves its directory as it is
unless its dataset is opened and its answer goes to a file that can be created.  If so, that file is
left empty if and only if the request fails, and no other file is touched; hence a request that
fails leaves the file as it was only if there was nothing in it before.  On a dataset whose names
can be written, a request fails if and only if its table has no columns, its text to search for is
refused, its column to sort by is unknown or its records cannot be searched for the text. -/
theorem run_export {arguments : List String} {inv : Invocation} {request : TableRequest}
    {out? : Option String} (hline : Invocation.ofArguments? arguments = some inv)
    (hcommand : inv.command = .exportRows request out?) (sources : Sources) (d : Directory) :
    let o := run arguments sources d
    (o.directory = d ∨ ∃ e path name, inv.explorer sources = .ok e ∧
      exportDestination request.table out? = .file path ∧
        Directory.fileAt? path = some name) ∧
    ∀ e path name, inv.explorer sources = .ok e →
      exportDestination request.table out? = .file path → Directory.fileAt? path = some name →
      o.IsExport d name (e.exportCsv request) ∧
      ∀ dataset, e.contents = .dataset dataset → dataset.IsNamed →
        '\x00' ∉ request.table.toList →
        ((∃ error, e.exportCsv request = .error error) ↔ request.IsFaulty dataset) := by
  have hrun : run arguments sources d = (inv.output sources).deliver d := by
    rw [run, hline]
  dsimp only
  rw [hrun]
  refine ⟨?_, fun e path name hopen hpath hname => ⟨?_, ?_⟩⟩
  · rcases (inv.output sources).directory_deliver d with hsame | ⟨path, name, hpath, hname⟩
    · exact .inl hsame
    · cases hopen : inv.explorer sources with
      | error error =>
          rw [Invocation.output, hopen] at hpath
          cases hpath
      | ok e =>
          rw [Invocation.output_exportRows hcommand hopen] at hpath
          exact .inr ⟨e, path, name, rfl, hpath, hname⟩
  · rw [Invocation.output_exportRows hcommand hopen, hpath]
    refine Output.isExport_deliver hname d fun count text htext => ?_
    obtain ⟨rows, -, hrows⟩ := Result.bind_eq_ok_iff.mp htext
    obtain ⟨-, rfl⟩ := Prod.mk.inj (Except.ok.inj hrows)
    exact exportText_ne_empty _ _
  · intro dataset hcontents hnamed hnul
    obtain ⟨contents, config⟩ := e
    obtain rfl : contents = .dataset dataset := hcontents
    exact exists_exportCsv_eq_error_iff hnamed config hnul

/-- The dataset of a command line is the one table of `tableAndBrokenView`. -/
def oneTableSources : Sources := ⟨fun _ => none, fun _ => some (.dataset tableAndBrokenView)⟩

/-- Two files, one of which an export names. -/
def twoFiles : Directory := ⟨[("notes.txt", "remember"), ("t.csv", "Tipo\nObras\n")]⟩

/-- A column to sort by that is spelled wrong costs the file of an earlier export, and nothing
else. -/
theorem run_export_of_unknownColumn :
    ∃ inv request, Invocation.ofArguments?
        ["--db", "x.db", "export", "t", "--sort", "Importe", "-o", "t.csv"] = some inv ∧
      inv.command = .exportRows request (some "t.csv") ∧ request.IsFaulty tableAndBrokenView ∧
      let o := run ["--db", "x.db", "export", "t", "--sort", "Importe", "-o", "t.csv"]
        oneTableSources twoFiles
      o.directory.read? "notes.txt" = some "remember" ∧
        o.directory.read? "t.csv" ≠ twoFiles.read? "t.csv" := by
  let inv : Invocation := ⟨"x.db", none, false, false,
    .exportRows { table := "t", sort := .by "Importe" .ascending } (some "t.csv")⟩
  have hline : Invocation.ofArguments?
      ["--db", "x.db", "export", "t", "--sort", "Importe", "-o", "t.csv"] = some inv := by rfl
  have hopen : inv.explorer oneTableSources = .ok ⟨.dataset tableAndBrokenView, {}⟩ := by rfl
  have hfaulty : TableRequest.IsFaulty { table := "t", sort := .by "Importe" .ascending }
      tableAndBrokenView := by
    exact .inr (.inr (.inl ⟨"Importe", by decide +kernel, by decide +kernel⟩))
  obtain ⟨-, hexport⟩ := run_export hline rfl oneTableSources twoFiles
  obtain ⟨hleft, hfails⟩ := hexport _ "t.csv" "t.csv" hopen rfl (by decide +kernel)
  have hfails := (hfails _ rfl isNamed_tableAndBrokenView (by decide)).mpr hfaulty
  refine ⟨inv, _, hline, rfl, hfaulty, ?_, ?_⟩
  · rw [hleft.others "notes.txt" (by decide)]
    rfl
  · rw [Ne, hleft.kept_iff hfails]
    decide +kernel

/-- An export of a table that is missing destroys the file of an earlier export, and creates it if
it was missing. -/
theorem run_export_of_missingTable :
    let arguments := ["--db", "x.db", "export", "ghost", "-o", "t.csv"]
    (run arguments oneTableSources twoFiles).failure? =
        some (.error (.tableNotFound "ghost")) ∧
      twoFiles.read? "t.csv" = some "Tipo\nObras\n" ∧
      (run arguments oneTableSources twoFiles).directory.read? "t.csv" = some "" ∧
      (run arguments oneTableSources {}).directory.read? "t.csv" = some "" := by
  decide +kernel

end Cli

end TableExplorer
