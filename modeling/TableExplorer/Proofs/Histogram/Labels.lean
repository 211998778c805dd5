import TableExplorer.Proofs.Amount.Cents
import TableExplorer.Proofs.Histogram.Conservation
import TableExplorer.Proofs.Text.Bytes

/-!
The labels of histograms.  Buckets are made by comparing values, labels by showing them.  Amounts
rounded to cents have labels of their own; of other values, those of one class do, but values of
different classes may be shown alike: a number as a text, or nothing as an empty text.  They are not
tied, so two buckets then have one label.

* `Cell.SameClass.eq_of_display`: **cells of one class that are shown alike are the same**.
* `Histogram.not_tied_of_precedes`: different buckets have values that are not tied.
* `Histogram.exists_buckets_of_compute`: **every histogram shows the first buckets** of a served
  request.
* `Histogram.labels_nodup_iff`: **which histograms have a label for each bucket**; that of nothing
  and an empty text has not, as `Histogram.labels_of_nothingAndEmpty` shows.
-/

namespace TableExplorer

/-! ### Cells that are shown alike -/

namespace Text.Utf8

/-- Well-formed bytes that are read alike are the same. -/
lemma eq_of_decode_eq {a b : ByteArray} (ha : IsEncoded a.toList) (hb : IsEncoded b.toList)
    (h : decode a = decode b) : a = b := by
  obtain ⟨s, hs⟩ := Option.isSome_iff_exists.mp (isSome_decode?_iff.mpr ha)
  obtain ⟨t, ht⟩ := Option.isSome_iff_exists.mp (isSome_decode?_iff.mpr hb)
  rw [decode, decode, hs, ht, Option.getD_some, Option.getD_some] at h
  rw [← toList_inj, decode?_eq_some_iff.mp hs, decode?_eq_some_iff.mp ht, h]

end Text.Utf8

namespace Cell

variable {a b c : Cell}

/-- Cells of one class: both nothing, integers, reals, or well-formed texts or blobs. -/
inductive SameClass : Cell → Cell → Prop
  | null : SameClass .null .null
  | integer (i j : Int64) : SameClass (.integer i) (.integer j)
  | real (x y : Binary64) : SameClass (.real x) (.real y)
  | text {s t : ByteArray} (hs : Text.Utf8.IsEncoded s.toList) (ht : Text.Utf8.IsEncoded t.toList) :
      SameClass (.text s) (.text t)
  | blob {s t : ByteArray} (hs : Text.Utf8.IsEncoded s.toList) (ht : Text.Utf8.IsEncoded t.toList) :
      SameClass (.blob s) (.blob t)

/-- **Cells of one class that are shown alike are the same.** -/
lemma SameClass.eq_of_display (h : SameClass a b) (hshown : a.read.display = b.read.display) :
    a = b := by
  cases h with
  | null => rfl
  | integer i j => rw [Int64.toInt_inj.mp (Int.repr_injective hshown)]
  | real x y => rw [Binary64.toText_injective hshown]
  | text hs ht => rw [Text.Utf8.eq_of_decode_eq hs ht hshown]
  | blob hs ht => rw [Text.Utf8.eq_of_decode_eq hs ht hshown]

/-- Tied cells are tied with the same cells. -/
lemma Tied.congr (h : Tied a b) : Tied a c ↔ Tied b c := by
  rw [← compare_eq_eq_iff, ← compare_eq_eq_iff,
    Std.TransCmp.congr_left (compare_eq_eq_iff.mpr h)]

/-- Tied cells are of one kind. -/
lemma Tied.rank_eq (h : Tied a b) : a.rank = b.rank := by
  by_contra hne
  rcases Nat.lt_or_gt_of_ne hne with hlt | hgt
  · exact h.1 (.kind hlt)
  · exact h.2 (.kind hgt)

/-- Only a text of the same bytes is tied with a text. -/
lemma Tied.eq_text {bytes : ByteArray} (h : Tied a (.text bytes)) : a = .text bytes := by
  have hcompare := compare_eq_eq_iff.mpr h
  cases a with
  | text own =>
      have hbytes : own.toList = bytes.toList := Std.LawfulEqCmp.eq_of_compare hcompare
      rw [Text.Utf8.toList_inj.mp hbytes]
  | _ => exact absurd hcompare (by simp [compare, rank])

end Cell

namespace Collation

variable {collation : Collation} {a : Cell}

/-- Only nothing is tied with nothing. -/
lemma Tied.eq_null (h : collation.Tied a .null) : a = .null := by
  have hrank := Cell.Tied.rank_eq h
  rw [rank_key, rank_key] at hrank
  cases a with
  | null => rfl
  | _ => exact absurd hrank (by simp [Cell.rank])

/-- The empty text is compared by itself. -/
lemma key_empty : collation.key (.ofString "") = .text ⟨#[]⟩ := by
  have hbytes : ByteArray.toList ⟨#[]⟩ = [] := by decide +kernel
  have hempty : Cell.ofString "" = .text ⟨#[]⟩ := rfl
  rw [hempty]
  cases collation with
  | binary => rfl
  | nocase =>
      rw [key, hbytes]
      rfl
  | rtrim =>
      rw [key, hbytes]
      rfl

/-- Letters do not vanish when their case does. -/
lemma lowerBytes_eq_nil {bytes : List UInt8} (h : lowerBytes bytes = []) : bytes = [] := by
  cases bytes with
  | nil => rfl
  | cons b rest =>
      rw [lowerBytes] at h
      split at h <;> cases h

/-- Only an empty text is tied with an empty text where spaces at the end count. -/
lemma Tied.eq_empty (hcollation : collation ≠ .rtrim) (h : collation.Tied a (.ofString "")) :
    a = .ofString "" := by
  rw [Tied, key_empty] at h
  have hkey := h.eq_text
  cases a with
  | text bytes =>
      cases collation with
      | binary => exact hkey
      | rtrim => exact absurd rfl hcollation
      | nocase =>
          have hlower : lowerBytes bytes.toList = [] :=
            congrArg Array.toList (congrArg ByteArray.data (Cell.text.inj hkey))
          have hbytes : bytes.toList = ByteArray.toList ⟨#[]⟩ :=
            (lowerBytes_eq_nil hlower).trans (by decide +kernel)
          exact congrArg Cell.text (Text.Utf8.toList_inj.mp hbytes)
  | _ => cases collation <;> cases hkey

end Collation

namespace Histogram

/-! ### The labels of buckets -/

section

variable {request : HistogramRequest} {style : AmountStyle} {collation : Collation}
  {values firsts : List Cell} {entries : List HistogramEntry} {cells : List Cell} {a b : Cell}

/-- Different buckets have values that are not tied. -/
lemma not_tied_of_precedes (h : Precedes request style collation values a b) :
    ¬collation.Tied a b := by
  intro htied
  rw [Precedes] at h
  split at h
  · have hcounts : (values.countP fun other => collation.Tied a other) =
        values.countP fun other => collation.Tied b other :=
      List.countP_congr fun other _ => by
        rw [decide_eq_true_iff, decide_eq_true_iff]
        exact Cell.Tied.congr htied
    rcases h with hfewer | ⟨-, hbefore⟩
    · exact absurd hcounts hfewer.ne'
    · exact htied.1 hbefore
  · exact Direction.not_before_of_tied htied h

/-- The labels of buckets are those of their values. -/
lemma labels_eq (h : List.Forall₂ (IsBucket style collation values) firsts entries) :
    entries.map (·.label) = firsts.map (labelOf style) := by
  induction h with
  | nil => rfl
  | cons hbucket _ ih => rw [List.map_cons, List.map_cons, hbucket.label, ih]

/-- The values of buckets are counted. -/
lemma mem_of_forall₂ (h : List.Forall₂ (IsBucket style collation values) firsts entries) :
    ∀ first ∈ firsts, first ∈ values := by
  induction h with
  | nil => exact List.forall_mem_nil _
  | cons hbucket _ ih => exact List.forall_mem_cons.mpr ⟨hbucket.mem, ih⟩

/-- **Amounts have labels of their own**; collations do not concern them. -/
lemma labelOf_ne_of_isNumeric (hstyle : style.isNumeric = true)
    (ha : a ∈ counted style cells) (hb : b ∈ counted style cells) (h : ¬collation.Tied a b) :
    labelOf style a ≠ labelOf style b := by
  rw [counted, if_pos hstyle] at ha hb
  obtain ⟨x, -, rfl⟩ := List.mem_map.mp ha
  obtain ⟨y, -, rfl⟩ := List.mem_map.mp hb
  have hkey : ∀ z : Binary64, collation.key (.real z) = .real z := fun z =>
    Collation.key_of_rank_ne (by rw [Cell.rank]; decide)
  rw [Collation.Tied, hkey, hkey] at h
  rw [labelOf, labelOf, if_pos hstyle, if_pos hstyle]
  exact fun hlabel => h (Amount.tied_of_writeLocale_eq hlabel)

/-- Buckets have labels of their own if they are those of amounts, or if their values that are shown
alike are tied. -/
lemma labels_nodup_iff_alike
    (hbuckets : List.Forall₂ (IsBucket style collation (counted style cells)) firsts entries)
    (hapart : firsts.Pairwise fun a b => ¬collation.Tied a b) :
    (entries.map (·.label)).Nodup ↔ style.isNumeric = true ∨
      ∀ a ∈ firsts, ∀ b ∈ firsts, a.read.display = b.read.display → collation.Tied a b := by
  have hmem := mem_of_forall₂ hbuckets
  rw [labels_eq hbuckets, List.Nodup, List.pairwise_map]
  cases hstyle : style.isNumeric with
  | true =>
      refine iff_of_true ?_ (.inl rfl)
      exact hapart.imp_of_mem fun ha hb =>
        labelOf_ne_of_isNumeric hstyle (hmem _ ha) (hmem _ hb)
  | false =>
      simp only [labelOf_eq_display hstyle, Bool.false_eq_true, false_or]
      have hsymm : Std.Symm fun a b : Cell => a.read.display ≠ b.read.display :=
        ⟨fun _ _ => Ne.symm⟩
      constructor
      · intro hlabels a ha b hb hshown
        by_contra hnot
        have hne : a ≠ b := fun heq => hnot (heq ▸ Collation.Tied.refl collation a)
        exact hlabels.forall ha hb hne hshown
      · exact fun halike => hapart.imp_of_mem fun ha hb hnot hshown =>
          hnot (halike _ ha _ hb hshown)

end

/-! ### The labels of histograms -/

variable {d : Dataset} {config : Config} {request : HistogramRequest} {column : String}
  {style : AmountStyle} {entries : List HistogramEntry}

/-- A histogram is made for a served request only, and of no more buckets than can be asked for. -/
lemma served_of_compute
    (h : compute (.dataset d) config request = .ok (.data column style entries)) :
    ∃ rel search, request.Served d rel search ∧ limitOf config request < Word.signedBound := by
  by_cases hserved : ∃ rel search, request.Served d rel search
  · obtain ⟨rel, search, hserved⟩ := hserved
    refine ⟨rel, search, hserved, ?_⟩
    by_contra hlimit
    rw [compute_of_served hserved, limited, if_neg hlimit] at h
    cases h
  · obtain ⟨answer, hnone, hanswer⟩ := exists_answer_of_not_served fun rel search hrequest =>
      hserved ⟨rel, search, hrequest⟩
    exact absurd ((hanswer config request.limit?).symm.trans h) (hnone column style entries)

/-- **Every histogram shows the first buckets** of a served request, as many as are allowed. -/
lemma exists_buckets_of_compute
    (h : compute (.dataset d) config request = .ok (.data column style entries)) :
    ∃ rel search, request.Served d rel search ∧ style = request.style config d search ∧
      entries = (request.allEntries config d rel search).take (limitOf config request) := by
  obtain ⟨rel, search, hserved, hlimit⟩ := served_of_compute h
  rw [compute_eq hserved hlimit, Except.ok.injEq] at h
  refine ⟨rel, search, hserved, ?_⟩
  generalize hshown : (request.allEntries config d rel search).take (limitOf config request) =
    shown at h
  cases shown with
  | nil => cases h
  | cons entry rest =>
      obtain ⟨-, rfl, rfl⟩ := data.inj h
      exact ⟨rfl, rfl⟩

/-- **Which histograms have a label for each bucket.**  All those of amounts have; any other has if
and only if the values of its buckets that are shown alike are tied, as all values of one class are.
If nothing and an empty text are found, and there is room for all buckets, it has not; but texts of
spaces must not be tied with the empty text. -/
theorem labels_nodup_iff
    (h : compute (.dataset d) config request = .ok (.data column style entries)) :
    ∃ rel search firsts, request.Served d rel search ∧
      let collation := rel.collation request.column
      let cells := request.cells rel search
      List.Forall₂ (IsBucket style collation (counted style cells)) firsts entries ∧
      firsts.Pairwise (fun a b => ¬collation.Tied a b) ∧
      ((entries.map (·.label)).Nodup ↔ style.isNumeric = true ∨
        ∀ a ∈ firsts, ∀ b ∈ firsts, a.read.display = b.read.display → collation.Tied a b) ∧
      ((∀ a ∈ cells, ∀ b ∈ cells, Cell.SameClass a b) → (entries.map (·.label)).Nodup) ∧
      (style.isNumeric = false → collation ≠ .rtrim → entries.length < limitOf config request →
        .null ∈ cells → .ofString "" ∈ cells → ¬(entries.map (·.label)).Nodup) := by
  obtain ⟨rel, search, hserved, rfl, hentries⟩ := exists_buckets_of_compute h
  obtain ⟨all, hbucketing⟩ := isBucketing_entriesOf request (request.style config d search)
    (rel.collation request.column) (request.cells rel search)
  refine ⟨rel, search, all.take (limitOf config request), hserved, ?_⟩
  intro collation cells
  have hshown : List.Forall₂ (IsBucket _ collation (counted _ cells))
      (all.take (limitOf config request)) entries :=
    hentries ▸ List.forall₂_take _ hbucketing.buckets
  have hapart : (all.take (limitOf config request)).Pairwise fun a b => ¬collation.Tied a b :=
    (hbucketing.ordered.imp not_tied_of_precedes).sublist (List.take_sublist _ _)
  have hiff := labels_nodup_iff_alike hshown hapart
  refine ⟨hshown, hapart, hiff, fun hclass => ?_,
    fun hstyle hcollation hroom hnull hempty hnodup => ?_⟩
  · refine hiff.mpr (or_iff_not_imp_left.mpr fun hstyle a ha b hb hlabel => ?_)
    have hmem := mem_of_forall₂ hshown
    rw [counted, if_neg hstyle] at hmem
    rw [(hclass a (hmem a ha) b (hmem b hb)).eq_of_display hlabel]
    exact Collation.Tied.refl collation b
  · have hall : all.take (limitOf config request) = all := by
      refine List.take_of_length_le ?_
      have hlength := hbucketing.buckets.length_eq
      rw [hentries, List.length_take, HistogramRequest.allEntries] at hroom
      omega
    have hcovers := hbucketing.covers
    rw [counted, hstyle, if_neg Bool.false_ne_true] at hcovers
    obtain ⟨a, ha, hanull⟩ := hcovers _ hnull
    obtain ⟨b, hb, hbempty⟩ := hcovers _ hempty
    obtain rfl := hanull.eq_null
    obtain rfl := hbempty.eq_empty hcollation
    rw [hall, hstyle] at hiff
    have htied := (hiff.mp hnodup).resolve_left Bool.false_ne_true _ ha _ hb rfl
    cases htied.eq_empty hcollation

/-- What a served request with these buckets is answered. -/
lemma compute_eq_data {rel : Relation} {search : Search} {first : HistogramEntry}
    (hserved : request.Served d rel search) (hlimit : limitOf config request < Word.signedBound)
    (hstyle : request.style config d search = style)
    (hshown : (request.allEntries config d rel search).take (limitOf config request) =
      first :: entries) :
    compute (.dataset d) config request = .ok (.data request.column style (first :: entries)) := by
  rw [compute_eq hserved hlimit, hstyle, hshown]
  rfl

/-- A repeated text and a missing value have labels of their own. -/
theorem labels_nodup_of_three :
    compute (.dataset (.ofCells [.ofString "b", .null, .ofString "b"])) {}
        { table := "t", column := "a" } = .ok (.data "a" .text [⟨"b", 2, none⟩, ⟨"", 1, none⟩]) ∧
      ∃ (collation : Collation) (firsts : List Cell), firsts.length = 2 ∧
        firsts.Pairwise (fun a b => ¬collation.Tied a b) ∧
        ∀ a ∈ firsts, ∀ b ∈ firsts, a.read.display = b.read.display → collation.Tied a b := by
  have hserved : HistogramRequest.Served { table := "t", column := "a" }
      (.ofCells [.ofString "b", .null, .ofString "b"])
      (Table.ofCells [.ofString "b", .null, .ofString "b"]).relation .all :=
    ⟨by decide +kernel, by decide +kernel, by rfl, by decide +kernel, by rfl, rfl,
      .inl (by decide +kernel)⟩
  have hmade : compute (.dataset (.ofCells [.ofString "b", .null, .ofString "b"])) {}
      { table := "t", column := "a" } = .ok (.data "a" .text [⟨"b", 2, none⟩, ⟨"", 1, none⟩]) :=
    compute_eq_data hserved (by decide +kernel) (by decide +kernel) (by decide +kernel)
  obtain ⟨_, _, firsts, -, hbuckets, hapart, hiff, -⟩ := labels_nodup_iff hmade
  have halike := (hiff.mp (by decide)).resolve_left (by decide)
  exact ⟨hmade, _, firsts, hbuckets.length_eq, hapart, halike⟩

/-- **Nothing and an empty text have a bucket each, under one label.** -/
theorem labels_of_nothingAndEmpty :
    compute (.dataset (.ofCells [.null, .ofString ""])) {} { table := "t", column := "a" } =
      .ok (.data "a" .text [⟨"", 1, none⟩, ⟨"", 1, none⟩]) := by
  have hserved : HistogramRequest.Served { table := "t", column := "a" }
      (.ofCells [.null, .ofString ""]) (Table.ofCells [.null, .ofString ""]).relation .all :=
    ⟨by decide +kernel, by decide +kernel, by rfl, by decide +kernel, by rfl, rfl,
      .inl (by decide +kernel)⟩
  exact compute_eq_data hserved (by decide +kernel) (by decide +kernel) (by decide +kernel)

end Histogram

end TableExplorer
