import TableExplorer.Proofs.Dashboard.TopAmounts
import TableExplorer.Proofs.Histogram.Conservation
import TableExplorer.Proofs.View.SampledStyles

/-!
Limits on sizes.  A limit cuts the answer to its first part: a histogram to its first buckets, the
samples of a column to its first texts, the records of a summary to those of the highest amounts.
So nothing is lost when it is raised, until it no longer fits into a statement.  The statement is
then refused, and each reader takes this in its own way: there is no histogram, a column of amounts
holds texts, and a summary with amounts fails.  A configuration is not refused for such a limit.

* `Histogram.entries_limited_mono`, `Histogram.compute_limit`: **histograms and their limit**.
* `TableSummary.compute_topRecords`: **summaries and the number of records that they keep**.
* `sizeLimits_take`: **what limits do over their whole range**; `sizeLimits_of_signedBound`: the
  first that is too large.
-/

namespace TableExplorer

/-! ### Histograms -/

namespace Histogram

section

variable {column : String} {style : AmountStyle} {buckets : List HistogramEntry} {few many : Nat}

/-- A limit that fits into a statement lets the first buckets through. -/
lemma entries_limited (hfits : many < Word.signedBound) :
    (limited column style buckets many).entries = buckets.take many := by
  rw [limited, if_pos hfits, entries_ofEntries]

/-- **A raised limit loses no buckets**, and no histogram, if it fits into a statement. -/
lemma entries_limited_mono (hle : few ≤ many) (hfits : many < Word.signedBound) :
    (limited column style buckets few).entries <+: (limited column style buckets many).entries ∧
      ((limited column style buckets many).isNoData = true →
        (limited column style buckets few).isNoData = true) := by
  rw [entries_limited hfits, entries_limited (hle.trans_lt hfits)]
  have hfirst : buckets.take few <+: buckets.take many := List.take_prefix_take_left hle
  refine ⟨hfirst, fun hnone => ?_⟩
  rw [limited, if_pos hfits, isNoData_ofEntries] at hnone
  rw [limited, if_pos (hle.trans_lt hfits), isNoData_ofEntries]
  exact List.prefix_nil.mp (hnone ▸ hfirst)

end

variable {d : Dataset} {request : HistogramRequest} {rel : Relation} {search : Search}

/-- **Histograms and their limit**: that of the request, or failing that of the configuration. -/
lemma compute_limit (h : request.Served d rel search) (config : Config) (configured : Nat)
    (limit? : Option Nat) :
    compute (.dataset d) { config with histogramLimit := configured }
        { request with limit? := limit? } =
      .ok (limited request.column (request.style config d search)
        (request.allEntries config d rel search) (max (limit?.getD configured) 1)) := by
  have hserved : HistogramRequest.Served { request with limit? := limit? } d rel search :=
    ⟨h.table_valid, h.column_valid, h.found, h.column_known, h.searched, h.searchable⟩
  exact compute_of_served hserved { config with histogramLimit := configured }

end Histogram

/-! ### Summaries -/

namespace Selection

variable {s : Selection} {config : Config} {roles : TableRoles} {records : List TopRecord}

/-- If the records of the highest amounts are listed, they are for any number of records that fits
into a statement. -/
lemma topRecords_eq_ite
    (hroles : roles = .resolve config s.table.name (columnNames s.relation.columns))
    (h : s.topRecords config roles = .ok records) (n : Nat) :
    s.topRecords { config with topRecords := n } roles =
      if n < Word.signedBound then
        .ok (((sortBy AmountRow.compareAmounts s.amountRows).take n).map (AmountRow.report config))
      else .error (.query "datatype mismatch") := by
  obtain ⟨recordId?, hrecordId, h⟩ := Result.bind_eq_ok_iff.mp h
  obtain ⟨description?, hdescription, h⟩ := Result.bind_eq_ok_iff.mp h
  obtain ⟨awardee?, hawardee, -⟩ := Result.bind_eq_ok_iff.mp h
  split
  · rename_i hfits
    have hlimit : checkLimit n = .ok () := checkLimit_eq_ok_iff.mpr hfits
    have hsame : roles = .resolve { config with topRecords := n } s.table.name
        (columnNames s.relation.columns) := hroles
    obtain ⟨listed, hlisted⟩ : ∃ listed,
        s.topRecords { config with topRecords := n } roles = .ok listed :=
      ⟨_, Result.bind_eq_ok hrecordId <| Result.bind_eq_ok hdescription <|
        Result.bind_eq_ok hawardee <| Result.bind_eq_ok hlimit rfl⟩
    rw [hlisted, eq_of_topRecords hsame hlisted]
    rfl
  · rename_i hlarge
    rw [topRecords, hrecordId, Result.ok_bind, hdescription, Result.ok_bind, hawardee,
      Result.ok_bind, checkLimit, if_neg hlarge]
    rfl

end Selection

namespace TableSummary

variable {d : Dataset} {config : Config} {table query : String} {summary : TableSummary}

/-- **Summaries and the number of records that they keep.**  If a summary is made, it is made for
any number that fits into a statement, and differs in these records only; without amounts it has
none. -/
lemma compute_topRecords (h : compute (.dataset d) config table query = .ok summary) (n : Nat) :
    compute (.dataset d) { config with topRecords := n } table query =
      if summary.amountStyle.isNumeric = true ∧ Word.signedBound ≤ n then
        .error (.query "datatype mismatch")
      else .ok { summary with
        topRecords := ((sortBy AmountRow.compareAmounts (d.amountRows config query table)).take
          n).map (AmountRow.report config) } := by
  obtain ⟨r, hcompute⟩ := SummaryReading.exists_compute_eq_bind h
  have hroles : r.roles = .resolve config r.selection.table.name
      (columnNames r.selection.relation.columns) := by
    rw [r.named, r.resolved]
  have htop := r.top
  rw [hcompute, Selection.topAmounts, r.amountRows_eq, r.amounts]
  rw [Selection.topAmounts, r.amounts] at htop
  cases hnumeric : summary.amountStyle.isNumeric with
  | false =>
      have hkey : ¬r.selection.amountKey?.isSome := by
        rw [r.amounts, hnumeric]
        exact Bool.false_ne_true
      rw [if_neg Bool.false_ne_true, if_neg fun h => Bool.false_ne_true h.1,
        Selection.amountRows_eq_nil hkey]
      have hnone : (sortBy AmountRow.compareAmounts []).take n = [] := List.take_nil
      rw [hnone]
      rfl
  | true =>
      rw [hnumeric] at htop
      rw [if_pos rfl, Selection.topRecords_eq_ite hroles htop]
      by_cases hfits : n < Word.signedBound
      · rw [if_pos hfits, if_neg fun h => h.2.not_gt hfits]
        rfl
      · rw [if_neg hfits, if_pos ⟨rfl, not_lt.mp hfits⟩]
        rfl

end TableSummary

/-! ### Limits -/

/-- **What limits do over their whole range.**  A histogram shows the first of all buckets, in
order, as many as its limit says, and at least one; the style of a column that can be sampled is
that of the first of its texts that can, and that of all once so many are sampled; and a summary,
which is made if the table can be summarised, has for any number of records to keep the first of its
rows from the highest amount down, all else being the same.  So what a limit lets through stays when
it is raised, as long as it fits into a statement.  One that does not, allowed as it is, leaves no
histogram, makes a column of amounts one of texts, and fails the summary of a table with amounts.
Requests that cannot be served do not depend on it, nor do columns that cannot be sampled. -/
theorem sizeLimits_take (d : Dataset) (config : Config) :
    (∀ (request : HistogramRequest) (rel : Relation) (search : Search),
      request.Served d rel search →
      let style := request.style config d search
      let collation := rel.collation request.column
      let values := Histogram.counted style (request.cells rel search)
      ∃ (buckets : List HistogramEntry) (firsts : List Cell) (answer : Nat → Histogram),
        Histogram.IsBucketing (Histogram.Precedes request style collation values) style collation
          values buckets firsts ∧
        (∀ (configured : Nat) (limit? : Option Nat),
          Histogram.compute (.dataset d) { config with histogramLimit := configured }
            { request with limit? := limit? } = .ok (answer (max (limit?.getD configured) 1))) ∧
        (∀ limit < Word.signedBound,
          answer limit = .ofEntries request.column style (buckets.take limit)) ∧
        (∀ few many, few ≤ many → many < Word.signedBound →
          (answer few).entries <+: (answer many).entries ∧
          ((answer many).isNoData = true → (answer few).isNoData = true)) ∧
        ∀ limit, Word.signedBound ≤ limit →
          answer limit = .noData "Query execution failed: datatype mismatch") ∧
    (∀ request : HistogramRequest, (∀ rel search, ¬request.Served d rel search) →
      ∀ (configured : Nat) (limit? : Option Nat),
        Histogram.compute (.dataset d) { config with histogramLimit := configured }
          { request with limit? := limit? } = Histogram.compute (.dataset d) config request) ∧
    (∀ (table column : String) (rel : Relation) (search : Search),
      Identifier.fault? table = none → Identifier.fault? column = none →
      d.relation? table = some rel →
      let texts := rel.sampledTexts column search
      let style (size : Nat) := StyleDetector.detect ⟨size⟩ (.dataset d) table column search
      let sampled : Prop := rel.failure? = none ∧ search.depth < maxDepth
      (sampled → ∀ size < Word.signedBound, style size = .classify (texts.take (max size 1)) ∧
        (texts.length ≤ size → style size = .classify texts)) ∧
      (¬sampled → ∀ size, style size = .text) ∧
      (∀ few many, few ≤ many → many < Word.signedBound → (style few).isNumeric = true →
        (style many).isNumeric = true) ∧
      ∀ size, Word.signedBound ≤ size → style size = .text) ∧
    ∀ table query : String,
      (∀ rel, Summarizable d config table query rel →
        ∃ summary, TableSummary.compute (.dataset d) config table query = .ok summary) ∧
      ∀ summary, TableSummary.compute (.dataset d) config table query = .ok summary →
        let rows := sortBy AmountRow.compareAmounts (d.amountRows config query table)
        ∀ size, TableSummary.compute (.dataset d) { config with topRecords := size } table query =
          if summary.amountStyle.isNumeric = true ∧ Word.signedBound ≤ size then
            .error (.query "datatype mismatch")
          else
            .ok { summary with topRecords := (rows.take size).map (AmountRow.report config) } := by
  refine ⟨fun request rel search hserved => ?_, fun request hrequest => ?_,
    fun table column rel search htable hcolumn hfound => ?_,
    fun table query => ⟨fun rel => TableSummary.exists_compute, fun summary hsummary =>
      TableSummary.compute_topRecords hsummary⟩⟩
  · intro style collation values
    obtain ⟨firsts, hbucketing⟩ :=
      Histogram.isBucketing_entriesOf request style collation (request.cells rel search)
    refine ⟨_, firsts, Histogram.limited request.column style
      (request.allEntries config d rel search), hbucketing,
      Histogram.compute_limit hserved config, fun limit hfits => if_pos hfits,
      fun few many => Histogram.entries_limited_mono, fun limit hlarge => ?_⟩
    exact if_neg hlarge.not_gt
  · intro configured limit?
    obtain ⟨answer, -, hanswer⟩ := Histogram.exists_answer_of_not_served hrequest
    rw [hanswer]
    exact (hanswer config request.limit?).symm
  · intro texts style sampled
    have hstyle : sampled → ∀ size, style size = _ := fun h =>
      StyleDetector.detect_eq_ite htable hcolumn hfound h.1 h.2
    have hunsampled : ¬sampled → ∀ size, style size = .text := fun h =>
      StyleDetector.detect_eq_text hfound h
    refine ⟨fun h size hfits => ?_, hunsampled, fun few many =>
      StyleDetector.isNumeric_detect_mono htable hcolumn hfound, fun size hlarge => ?_⟩
    · rw [hstyle h, if_pos hfits]
      exact ⟨rfl, fun hall => congrArg _ (List.take_of_length_le (hall.trans (le_max_left _ _)))⟩
    · by_cases h : sampled
      · rw [hstyle h, if_neg hlarge.not_gt]
      · exact hunsampled h size

/-- A table of one amount. -/
def oneAmount : Table := .ofTexts "t" ["Importe"] [["1.234,50"]]

/-- The requests for a histogram of the amount can be served. -/
lemma served_oneAmount : HistogramRequest.Served { table := "t", column := "Importe" }
    (.ofTables [oneAmount]) oneAmount.relation .all :=
  ⟨by decide +kernel, by decide +kernel, by rfl, by decide +kernel, by rfl, rfl,
    .inl (by decide +kernel)⟩

/-- The amount can be summarised. -/
lemma summarizable_oneAmount :
    Summarizable (.ofTables [oneAmount]) {} "t" "" oneAmount.relation where
  served :=
    { table_valid := served_oneAmount.table_valid
      found := served_oneAmount.found
      columns_valid := by decide +kernel
      columns_ne_nil := by decide +kernel
      query_valid := by decide +kernel
      sort_known := fun column hsort => nomatch hsort
      searchable := served_oneAmount.searchable }
  texts := by decide +kernel
  tables := by decide +kernel
  topRecords_lt := by decide +kernel

/-- The amount is counted, found and kept under the largest limits that fit into a statement. -/
theorem sizeLimits_take_of_oneAmount :
    let d : Dataset := .ofTables [oneAmount]
    let largest := Word.signedBound - 1
    HistogramRequest.Served { table := "t", column := "Importe" } d oneAmount.relation .all ∧
      Summarizable d {} "t" "" oneAmount.relation ∧
      (∃ histogram, Histogram.compute (.dataset d) {}
          { table := "t", column := "Importe", limit? := some largest } = .ok histogram ∧
        histogram.isNoData = false) ∧
      (StyleDetector.detect ⟨largest⟩ (.dataset d) "t" "Importe" .all).isNumeric = true ∧
      (TableSummary.compute (.dataset d) { topRecords := largest } "t" "").isOk = true := by
  intro d largest
  obtain ⟨hhistograms, -, hstyles, hsummaries⟩ := sizeLimits_take d {}
  obtain ⟨buckets, firsts, answer, -, hanswer, -, hraised, -⟩ := hhistograms _ _ _ served_oneAmount
  obtain ⟨-, -, hmore, -⟩ := hstyles "t" "Importe" oneAmount.relation .all
    served_oneAmount.table_valid served_oneAmount.column_valid served_oneAmount.found
  obtain ⟨hmakes, hsizes⟩ := hsummaries "t" ""
  obtain ⟨summary, hmade⟩ := hmakes _ summarizable_oneAmount
  refine ⟨served_oneAmount, summarizable_oneAmount,
    ⟨answer largest, hanswer 50 (some largest), ?_⟩, ?_, ?_⟩
  · have hfew : Histogram.compute (.dataset d) {} { table := "t", column := "Importe" } =
        .ok (answer 50) := hanswer 50 none
    have hshown : (Histogram.compute (.dataset d) {} { table := "t", column := "Importe" }).map
        Histogram.isNoData = .ok false := by decide +kernel
    rw [hfew] at hshown
    refine Bool.eq_false_iff.mpr fun hnone => ?_
    have hfewNone := (hraised 50 largest (by decide) (by decide)).2 hnone
    exact Bool.false_ne_true ((Except.ok.inj hshown).symm.trans hfewNone)
  · exact hmore 50 largest (by decide) (by decide) (by decide +kernel)
  · rw [hsizes summary hmade largest, if_neg fun h => absurd h.2 (by decide)]
    rfl

/-- **The first limit that is too large** is one that a configuration may have.  Under it the amount
is not counted, not found and not kept, and there is no summary. -/
theorem sizeLimits_of_signedBound :
    let d : Dataset := .ofTables [oneAmount]
    let size := Word.signedBound
    let config : Config := { sampleSize := size, histogramLimit := size, topRecords := size }
    config.check = .ok () ∧
      (Histogram.compute (.dataset d) {} { table := "t", column := "Importe" }).map
        Histogram.isNoData = .ok false ∧
      Histogram.compute (.dataset d) {} { table := "t", column := "Importe", limit? := some size } =
        .ok (.noData "Query execution failed: datatype mismatch") ∧
      StyleDetector.detect ⟨50⟩ (.dataset d) "t" "Importe" .all = .euro ∧
      StyleDetector.detect ⟨size⟩ (.dataset d) "t" "Importe" .all = .text ∧
      (TableSummary.compute (.dataset d) {} "t" "").isOk = true ∧
      (TableSummary.compute (.dataset d) { topRecords := size } "t" "").isOk = false := by
  intro d size config
  refine ⟨by decide +kernel, by decide +kernel, ?_, by decide +kernel, by decide +kernel,
    by decide +kernel, by decide +kernel⟩
  exact (Histogram.compute_limit served_oneAmount {} 50 (some size)).trans
    (congrArg Except.ok (if_neg (by decide)))

end TableExplorer
