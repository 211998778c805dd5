import Mathlib
import TableExplorer.Export.Basic
import TableExplorer.Proofs.Text.Bytes

/-!
Exported text read again.  A reader of comma-separated text goes through the characters and
remembers where it stands: at the start of a field, in a field, between quotes, or behind a quote
that either ends the field or is the first of two.  It skips empty lines, and refuses quotes inside
of fields without quotes, and carriage returns outside of quotes.

* `Csv.Reader`, `Reader.step`, `readBytes?`: the reader.
* `Reader.HasRead`: what has been read of a record; `Reader.run_writeField`, `run_joinFields`,
  `run_writeRecord`, `run_writeRecords`: **what is written is read**, field by field and record by
  record.
* `Csv.readBytes?_write`: **records with fields are read back**.
* `writeCsv_readBack`: **an export is read back** as the names of the columns and the fields of the
  rows; `writeCsv_of_lineBreaks`: fields with quotes and the ends of lines, and an empty one.
-/

namespace TableExplorer

namespace Csv

/-! ### A reader -/

/-- Where a reader stands. -/
inductive Place where
  | start
  | bare
  | quoted
  | closing
  deriving DecidableEq

/-- A reader: where it stands, the field and the fields of the record under way, and the records
before. -/
structure Reader where
  place : Place
  field : List Char
  fields : List (List Char)
  records : List (List (List Char))

namespace Reader

/-- A reader at the beginning of a record. -/
def atRecord (records : List (List (List Char))) : Reader := ⟨.start, [], [], records⟩

/-- The record under way ends here. -/
def endRecord (r : Reader) : Reader := atRecord (r.records ++ [r.fields ++ [r.field]])

/-- A comma ends the field, and a line feed the record; a line without any character is skipped. -/
def separate? (r : Reader) (c : Char) : Option Reader :=
  if c = ',' then some ⟨.start, [], r.fields ++ [r.field], r.records⟩
  else if c = '\n' then some (if r.place = .start ∧ r.fields = [] then r else r.endRecord)
  else none

/-- Reads a character. -/
def step (r : Reader) (c : Char) : Option Reader :=
  match r.place with
  | .quoted =>
    some (if c = '"' then { r with place := .closing } else { r with field := r.field ++ [c] })
  | .closing =>
    if c = '"' then some { r with place := .quoted, field := r.field ++ ['"'] } else r.separate? c
  | place =>
    if c = ',' ∨ c = '\n' then r.separate? c
    else if c = '"' then if place = .start then some { r with place := .quoted } else none
    else if c = '\r' then none
    else some { r with place := .bare, field := r.field ++ [c] }

/-- Reads characters. -/
def run (r : Reader) (cs : List Char) : Option Reader := cs.foldlM step r

end Reader

/-- The records of a text, all of which end with a line feed. -/
def read? (text : String) : Option (List (List String)) := do
  let r ← (Reader.atRecord []).run text.toList
  if r.place = .start ∧ r.fields = [] then
    some (r.records.map fun fields => fields.map String.ofList)
  else none

/-- The records of a text that is given by its bytes. -/
def readBytes? (bytes : ByteArray) : Option (List (List String)) :=
  (Text.Utf8.decode? bytes).bind read?

/-! ### Fields -/

namespace Reader

variable {r : Reader} {fields : List (List Char)} {records : List (List (List Char))}

lemma run_append (r : Reader) (cs cs' : List Char) :
    r.run (cs ++ cs') = (r.run cs).bind fun r' => r'.run cs' := List.foldlM_append

lemma run_cons (r : Reader) (c : Char) (cs : List Char) :
    r.run (c :: cs) = (r.step c).bind fun r' => r'.run cs := List.foldlM_cons

/-- A reader at the beginning of a field. -/
def atField (fields : List (List Char)) (records : List (List (List Char))) : Reader :=
  ⟨.start, [], fields, records⟩

/-- A reader has read some fields, the last of which may go on, after some other records. -/
structure HasRead (r : Reader) (fields : List (List Char)) (records : List (List (List Char))) :
    Prop where
  place : r.place ≠ .quoted
  start : r.place = .start → r.field = []
  fields : r.fields ++ [r.field] = fields
  records : r.records = records

/-- A character that needs no quotes is read as itself. -/
lemma step_of_not_needsQuotes (hplace : r.place = .start ∨ r.place = .bare) {c : Char}
    (hc : needsQuotes c = false) :
    r.step c = some ⟨.bare, r.field ++ [c], r.fields, r.records⟩ := by
  simp only [needsQuotes, Bool.or_eq_false_iff, beq_eq_false_iff_ne] at hc
  obtain ⟨⟨⟨hcomma, hquote⟩, hfeed⟩, hreturn⟩ := hc
  rcases hplace with hplace | hplace <;>
    simp only [step, hplace, hcomma, hquote, hfeed, hreturn, or_self, if_false]

/-- A field without quotes is read as itself. -/
lemma run_bare (field : List Char) {cs : List Char} (hcs : ∀ c ∈ cs, needsQuotes c = false) :
    run ⟨.bare, field, fields, records⟩ cs = some ⟨.bare, field ++ cs, fields, records⟩ := by
  induction cs generalizing field with
  | nil =>
      rw [List.append_nil]
      rfl
  | cons c cs ih =>
      rw [run_cons, step_of_not_needsQuotes (.inr rfl) (hcs c List.mem_cons_self),
        Option.bind_some, ih _ fun d hd => hcs d (List.mem_cons_of_mem _ hd), List.append_assoc,
        List.singleton_append]

/-- What stands between quotes, with its own quotes doubled, is read as itself. -/
lemma run_quoted (field cs : List Char) :
    run ⟨.quoted, field, fields, records⟩
        (cs.flatMap fun c => if c = '"' then ['"', '"'] else [c]) =
      some ⟨.quoted, field ++ cs, fields, records⟩ := by
  induction cs generalizing field with
  | nil =>
      rw [List.append_nil]
      rfl
  | cons c cs ih =>
      have hchar : run ⟨.quoted, field, fields, records⟩
          (if c = '"' then ['"', '"'] else [c]) =
            some ⟨.quoted, field ++ [c], fields, records⟩ := by
        by_cases hquote : c = '"'
        · -- the first quote seems to close the field, and the second one opens it again
          rw [if_pos hquote, hquote]
          rfl
        · rw [if_neg hquote, run_cons, step, if_neg hquote]
          rfl
      rw [List.flatMap_cons, run_append, hchar, Option.bind_some, ih, List.append_assoc,
        List.singleton_append]

/-- A field between quotes is read as the field, and the last quote closes it. -/
lemma run_quote (fields : List (List Char)) (records : List (List (List Char)))
    (field : List Char) :
    (atField fields records).run (quote field) = some ⟨.closing, field, fields, records⟩ := by
  have hopen : (atField fields records).step '"' = some ⟨.quoted, [], fields, records⟩ := rfl
  have hclose : run ⟨.quoted, field, fields, records⟩ ['"'] =
      some ⟨.closing, field, fields, records⟩ := rfl
  rw [quote, List.cons_append, run_cons, hopen, Option.bind_some, run_append, run_quoted,
    Option.bind_some, List.nil_append, hclose]

/-- **A field that is written is read.** -/
lemma run_writeField (fields : List (List Char)) (records : List (List (List Char)))
    (field : List Char) :
    ∃ r, (atField fields records).run (writeField field) = some r ∧
      r.HasRead (fields ++ [field]) records := by
  rw [writeField]
  split
  · exact ⟨_, run_quote fields records field, ⟨nofun, nofun, rfl, rfl⟩⟩
  · rename_i hplain
    have hplain : ∀ c ∈ field, needsQuotes c = false := by
      simpa using hplain
    cases field with
    | nil => exact ⟨_, rfl, ⟨nofun, fun _ => rfl, rfl, rfl⟩⟩
    | cons c cs =>
        refine ⟨⟨.bare, c :: cs, fields, records⟩, ?_, ⟨nofun, nofun, rfl, rfl⟩⟩
        rw [run_cons, step_of_not_needsQuotes (.inl rfl) (hplain c List.mem_cons_self),
          Option.bind_some]
        exact run_bare [c] fun d hd => hplain d (List.mem_cons_of_mem _ hd)

/-- Outside of quotes, commas and line feeds separate. -/
lemma HasRead.step_eq_separate? (h : r.HasRead fields records) {c : Char}
    (hc : c = ',' ∨ c = '\n') : r.step c = r.separate? c := by
  have hquote : c ≠ '"' := by
    rcases hc with rfl | rfl <;> decide
  have hplace := h.place
  cases hcase : r.place with
  | quoted => exact absurd hcase hplace
  | closing => simp only [step, hcase, if_neg hquote]
  | start => simp only [step, hcase, if_pos hc]
  | bare => simp only [step, hcase, if_pos hc]

/-- A comma ends a field. -/
lemma HasRead.step_comma (h : r.HasRead fields records) :
    r.step ',' = some (atField fields records) := by
  rw [h.step_eq_separate? (.inl rfl), separate?, if_pos rfl, h.fields, h.records]
  rfl

/-- A line feed ends a record, if the record is not an empty line. -/
lemma HasRead.step_lineFeed (h : r.HasRead fields records) (hne : fields ≠ [[]]) :
    r.step '\n' = some (atRecord (records ++ [fields])) := by
  have hline : ¬(r.place = .start ∧ r.fields = []) := by
    rintro ⟨hstart, hnone⟩
    refine hne ?_
    rw [← h.fields, hnone, h.start hstart]
    rfl
  rw [h.step_eq_separate? (.inr rfl), separate?, if_neg (by decide), if_pos rfl, if_neg hline,
    endRecord, h.fields, h.records]

/-! ### Records -/

/-- **The fields of a record are read.** -/
lemma run_joinFields (records : List (List (List Char))) (before : List (List Char))
    {fields : List (List Char)} (hne : fields ≠ []) :
    ∃ r, (atField before records).run (joinFields (fields.map writeField)) = some r ∧
      r.HasRead (before ++ fields) records := by
  induction fields generalizing before with
  | nil => exact absurd rfl hne
  | cons field rest ih =>
      obtain ⟨r, hrun, hread⟩ := run_writeField before records field
      cases rest with
      | nil => exact ⟨r, hrun, hread⟩
      | cons next rest =>
          obtain ⟨r', hrun', hread'⟩ := ih (before ++ [field]) (List.cons_ne_nil next rest)
          refine ⟨r', ?_, ?_⟩
          · rw [List.map_cons, List.map_cons, joinFields, run_append, hrun, Option.bind_some,
              run_cons, hread.step_comma, Option.bind_some, ← List.map_cons, hrun']
            exact List.cons_ne_nil _ _
          · rw [List.append_assoc, List.singleton_append] at hread'
            exact hread'

/-- **A record that is written is read.** -/
lemma run_writeRecord (records : List (List (List Char))) (hne : fields ≠ []) :
    (atRecord records).run (writeRecord fields) = some (atRecord (records ++ [fields])) := by
  obtain ⟨r, hrun, hread⟩ := run_joinFields records [] hne
  rw [List.nil_append] at hread
  have hempty : joinFields (fields.map writeField) = [] ↔ fields = [[]] := by
    constructor
    · intro h
      rw [h] at hrun
      obtain rfl := Option.some.inj hrun
      exact hread.fields.symm
    · rintro rfl
      rfl
  rw [writeRecord]
  by_cases hline : fields = [[]]
  · -- an empty line would be skipped
    rw [hline]
    rfl
  · rw [if_neg fun h => hline (hempty.mp (List.isEmpty_iff.mp h)), run_append]
    refine (congrArg (Option.bind · _) hrun).trans ?_
    rw [Option.bind_some, run_cons, hread.step_lineFeed hline]
    rfl

/-- **Records that are written are read.** -/
lemma run_writeRecords (before : List (List (List Char)))
    (hne : ∀ fields ∈ records, fields ≠ []) :
    (atRecord before).run (records.flatMap writeRecord) = some (atRecord (before ++ records)) := by
  induction records generalizing before with
  | nil =>
      rw [List.append_nil]
      rfl
  | cons fields records ih =>
      obtain ⟨hfields, hrecords⟩ := List.forall_mem_cons.mp hne
      rw [List.flatMap_cons, run_append, run_writeRecord before hfields, Option.bind_some,
        ih _ hrecords, List.append_assoc, List.singleton_append]

end Reader

/-- **Records with fields are read back.** -/
lemma readBytes?_write {records : List (List String)} (hne : ∀ fields ∈ records, fields ≠ []) :
    readBytes? (write records).toUTF8 = some records := by
  have hrun : (Reader.atRecord []).run (write records).toList =
      some (.atRecord (records.map fun fields => fields.map String.toList)) := by
    have hne' : ∀ fields ∈ records.map (fun fields => fields.map String.toList), fields ≠ [] := by
      intro fields hfields
      obtain ⟨named, hnamed, rfl⟩ := List.mem_map.mp hfields
      exact fun hnil => hne named hnamed (List.map_eq_nil_iff.mp hnil)
    have hread := Reader.run_writeRecords [] hne'
    rw [List.flatMap_map] at hread
    rw [write, String.toList_ofList]
    exact hread
  have htexts : ∀ fields : List String, (fields.map String.toList).map String.ofList = fields := by
    intro fields
    rw [List.map_map]
    exact (List.map_congr_left fun s _ => String.ofList_toList).trans (List.map_id fields)
  rw [readBytes?, Text.Utf8.decode?_toUTF8, Option.bind_some, read?, hrun]
  show some ((records.map fun fields => fields.map String.toList).map _) = some records
  rw [List.map_map]
  exact congrArg some ((List.map_congr_left fun fields _ => htexts fields).trans
    (List.map_id records))

end Csv

/-! ### Exports -/

/-- The field of a row is its value as it is exported, and empty without a value. -/
lemma Row.exportField_eq (row : Row) (name : String) :
    row.exportField name =
      ((row.get? name).map fun v => (ExportCell.ofValue v).render).getD "" := by
  rw [exportField]
  cases row.get? name <;> rfl

/-- **An export is read back**: the bytes that are written for some columns are read as the names of
the columns and, for each row, the values of the row under these names as they are exported, with an
empty field where the row has no value. -/
theorem writeCsv_readBack (columns : List Column) (rows : List Row) (hne : columns ≠ []) :
    ∃ records,
      Csv.readBytes? (writeCsv columns rows).2.toUTF8 = some records ∧
      records = columns.map (·.name) :: rows.map (fun row => columns.map fun column =>
        ((row.get? column.name).map fun v => (ExportCell.ofValue v).render).getD "") ∧
      records.length = 1 + rows.length ∧
      (∀ record ∈ records, record.length = columns.length) ∧
      (writeCsv columns rows).1 = rows.length := by
  have hfields : ∀ record ∈ exportRecords (columnNames columns) rows,
      record.length = columns.length := by
    intro record hrecord
    rw [exportRecords, List.mem_cons, List.mem_map] at hrecord
    rcases hrecord with rfl | ⟨row, -, rfl⟩
    · exact List.length_map _
    · rw [List.length_map, columnNames, List.length_map]
  have hsome : ∀ record ∈ exportRecords (columnNames columns) rows, record ≠ [] := by
    rintro record hrecord rfl
    exact hne (List.length_eq_zero_iff.mp (hfields [] hrecord).symm)
  refine ⟨exportRecords (columnNames columns) rows, Csv.readBytes?_write hsome, ?_, ?_, hfields,
    rfl⟩
  · have hrow : ∀ row : Row, (columnNames columns).map row.exportField = columns.map fun column =>
        ((row.get? column.name).map fun v => (ExportCell.ofValue v).render).getD "" := by
      intro row
      rw [columnNames, List.map_map]
      exact List.map_congr_left fun column _ => row.exportField_eq column.name
    rw [exportRecords, List.map_congr_left fun row _ => hrow row]
    rfl
  · rw [exportRecords, List.length_cons, List.length_map, Nat.add_comm]

/-- A field with a comma, quotes and the end of a line, and a row without a value. -/
theorem writeCsv_of_lineBreaks :
    let columns : List Column := [⟨"a", "TEXT"⟩]
    let rows : List Row := [⟨[("a", .text "x,\"y\"\r\n")]⟩, ⟨[]⟩]
    (writeCsv columns rows).2 = "a\n\"x,\"\"y\"\"\r\n\"\n\"\"\n" ∧
      Csv.readBytes? (writeCsv columns rows).2.toUTF8 = some [["a"], ["x,\"y\"\r\n"], [""]] := by
  intro columns rows
  obtain ⟨records, hread, hrecords, -⟩ := writeCsv_readBack columns rows (List.cons_ne_nil _ _)
  have hvalues : records = [["a"], ["x,\"y\"\r\n"], [""]] := by
    rw [hrecords]
    decide +kernel
  exact ⟨by decide +kernel, hvalues ▸ hread⟩

end TableExplorer
