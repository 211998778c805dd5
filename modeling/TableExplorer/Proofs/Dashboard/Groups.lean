import TableExplorer.Dashboard.Selection
import TableExplorer.Proofs.Dataset.CellOrder
import TableExplorer.Proofs.Dataset.Names
import TableExplorer.Proofs.Grouping
import TableExplorer.Proofs.Text.Bytes

/-!
Groups of records.  A statement groups records by the cell that they have under a name; this is the
computed cell, unless the table has a column of this name.

* `Result.mapM_eq_ok_iff`: a step for each item succeeds if all of them do.
* `isGrouping_groupRecords`: **the groups of a statement** are those of the cells that it groups by.
* `Relation.Separates`: a column of the name, if there is one, keeps records apart that differ in
  what is computed; `same_of_separates`: then the records of a group agree in it.
* `shownText_eq_ok_iff`: a text is shown if it is well-formed; `isLegible` is this test.
-/

namespace TableExplorer

/-- A step for each item succeeds with the results of the items, in order. -/
lemma Result.mapM_eq_ok_iff {α β : Type} {f : α → Result β} {xs : List α} {ys : List β} :
    xs.mapM f = .ok ys ↔ List.Forall₂ (fun x y => f x = .ok y) xs ys := by
  induction xs generalizing ys with
  | nil =>
      rw [List.mapM_nil, List.forall₂_nil_left_iff]
      exact ⟨fun h => (Except.ok.inj h).symm, fun h => h ▸ rfl⟩
  | cons x xs ih =>
      rw [List.mapM_cons, Result.bind_eq_ok_iff, List.forall₂_cons_left_iff]
      constructor
      · rintro ⟨y, hy, h⟩
        obtain ⟨rest, hrest, h⟩ := Result.bind_eq_ok_iff.mp h
        exact ⟨y, rest, hy, ih.mp hrest, (Except.ok.inj h).symm⟩
      · rintro ⟨y, rest, hy, hrest, rfl⟩
        exact ⟨y, hy, Result.bind_eq_ok (ih.mpr hrest) rfl⟩

/-- A step succeeds for all items if and only if it does for each. -/
lemma Result.exists_mapM_iff {α β : Type} {f : α → Result β} {xs : List α} :
    (∃ ys, xs.mapM f = .ok ys) ↔ ∀ x ∈ xs, ∃ y, f x = .ok y := by
  induction xs with
  | nil => exact ⟨fun _ _ hx => (nomatch hx), fun _ => ⟨[], rfl⟩⟩
  | cons x xs ih =>
      rw [List.forall_mem_cons, ← ih, List.mapM_cons]
      simp only [Result.bind_eq_ok_iff]
      constructor
      · rintro ⟨_, y, hy, ys, hys, -⟩
        exact ⟨⟨y, hy⟩, ys, hys⟩
      · rintro ⟨⟨y, hy⟩, ys, hys⟩
        exact ⟨y :: ys, y, hy, ys, hys, rfl⟩

/-! ### Shown texts -/

/-- A text is shown as it is read. -/
lemma shownText_eq_ok_iff {bytes : ByteArray} {s : String} :
    shownText bytes = .ok s ↔ Text.Utf8.decode? bytes = some s := by
  rw [shownText]
  split
  · rename_i t ht
    rw [ht, Option.some.injEq, Except.ok.injEq]
  · rename_i hnone
    rw [hnone]
    exact ⟨fun h => (nomatch h), fun h => (nomatch h)⟩

/-- A text, if there is one, is well-formed. -/
def isLegible (text? : Option ByteArray) : Bool :=
  text?.all fun bytes => (Text.Utf8.decode? bytes).isSome

/-- A text is shown if and only if it is well-formed. -/
lemma exists_shownText_iff {bytes : ByteArray} :
    (∃ s, shownText bytes = .ok s) ↔ isLegible (some bytes) = true := by
  simp only [shownText_eq_ok_iff]
  exact Option.isSome_iff_exists.symm

/-- A text that need not be there is shown if and only if it is well-formed. -/
lemma exists_shownText_getD_iff {text? : Option ByteArray} :
    (∃ s, shownText (text?.getD .empty) = .ok s) ↔ isLegible text? = true := by
  cases text? with
  | none => exact ⟨fun _ => rfl, fun _ => exists_shownText_iff.mpr (by decide +kernel)⟩
  | some bytes => exact exists_shownText_iff

/-- A well-formed text is well-formed without the spaces around it. -/
lemma isLegible_trimmedText? {cell : Cell} (h : isLegible cell.castText? = true) :
    isLegible cell.trimmedText? = true := by
  rw [Cell.trimmedText?]
  cases hcast : cell.castText? with
  | none => rfl
  | some bytes =>
      rw [hcast] at h
      exact Text.Utf8.isSome_decode?_iff.mpr
        (Text.Utf8.isEncoded_trimSpaces (Text.Utf8.isSome_decode?_iff.mp h))

/-- A text that is shown is read as it is shown. -/
lemma decode_of_shownText {bytes : ByteArray} {s : String} (h : shownText bytes = .ok s) :
    Text.Utf8.decode bytes = s := by
  rw [Text.Utf8.decode, shownText_eq_ok_iff.mp h, Option.getD_some]

/-- Computed texts are tied only if they are equal. -/
lemma compare_textCell_eq_eq_iff {a b : Option ByteArray} :
    Cell.compare (textCell a) (textCell b) = .eq ↔ a = b := by
  cases a with
  | none =>
      cases b with
      | none => exact ⟨fun _ => rfl, fun _ => rfl⟩
      | some b => exact ⟨fun h => (nomatch h), fun h => (nomatch h)⟩
  | some a =>
      cases b with
      | none => exact ⟨fun h => (nomatch h), fun h => (nomatch h)⟩
      | some b =>
          have hcompare : Cell.compare (textCell (some a)) (textCell (some b)) =
              compare a.toList b.toList := rfl
          rw [hcompare, Std.LawfulEqCmp.compare_eq_iff_eq, Text.Utf8.toList_inj, Option.some.injEq]

/-! ### Groups -/

/-- Grouping records under a name groups them by the cell that they have under it. -/
lemma groupRecords_eq (rel : Relation) (name : String) (computed : Record → Cell)
    (records : List Record) :
    groupRecords rel name computed records =
      groupBy Cell.compare (groupingCell rel name computed) records := by
  rw [groupRecords, groupBy_map, List.map_map]
  refine (List.map_congr_left fun group _ => ?_).trans (List.map_id _)
  refine Prod.ext rfl ?_
  rw [Function.comp_apply]
  dsimp only
  rw [List.map_map]
  exact List.map_id _

/-- **The groups of a statement** are those of the cells under the name that it groups by. -/
lemma isGrouping_groupRecords (rel : Relation) (name : String) (computed : Record → Cell)
    (records : List Record) :
    IsGrouping (fun r s => Cell.compare (groupingCell rel name computed r)
        (groupingCell rel name computed s) = .eq) records
      (groupRecords rel name computed records) := by
  rw [groupRecords_eq]
  exact isGrouping_groupBy _ _

/-- A group is all records that have the cell of its first record. -/
lemma snd_of_mem_groupRecords {rel : Relation} {name : String} {computed : Record → Cell}
    {records : List Record} {group : Record × List Record}
    (h : group ∈ groupRecords rel name computed records) :
    group.2 = records.filter fun record =>
      Cell.compare (groupingCell rel name computed group.1)
        (groupingCell rel name computed record) == .eq := by
  rw [groupRecords_eq] at h
  exact snd_of_mem_groupBy h

/-- A column of this name, if there is one, keeps records apart that differ in `f`, by its
collation. -/
def Relation.Separates {γ : Type} (rel : Relation) (name : String) (records : List Record)
    (f : Record → γ) : Prop :=
  ∀ index, rel.columnIndex? name = some index → ∀ r ∈ records, ∀ s ∈ records,
    Cell.compare (rel.columnKey index r) (rel.columnKey index s) = .eq → f r = f s

/-- A column of this name, if there is one, has equal cells, by its collation, exactly where `f` is
equal. -/
def Relation.GroupsAs {γ : Type} (rel : Relation) (name : String) (records : List Record)
    (f : Record → γ) : Prop :=
  ∀ index, rel.columnIndex? name = some index → ∀ r ∈ records, ∀ s ∈ records,
    (Cell.compare (rel.columnKey index r) (rel.columnKey index s) = .eq ↔ f r = f s)

/-- If a column of the name groups as `f` does, and so does the computed cell, then the groups are
those of `f`. -/
lemma compare_groupingCell_iff {γ : Type} {rel : Relation} {name : String} {records : List Record}
    {f : Record → γ} (hgroups : rel.GroupsAs name records f) {computed : Record → Cell}
    (hcomputed : ∀ r ∈ records, ∀ s ∈ records,
      Cell.compare (computed r) (computed s) = .eq ↔ f r = f s)
    {r s : Record} (hr : r ∈ records) (hs : s ∈ records) :
    Cell.compare (groupingCell rel name computed r) (groupingCell rel name computed s) = .eq ↔
      f r = f s := by
  rw [groupingCell, groupingCell]
  cases hindex : rel.columnIndex? name with
  | some index => exact hgroups index hindex r hr s hs
  | none => exact hcomputed r hr s hs

/-- If a column of the name keeps records apart that differ in `f`, and so does the computed cell,
then the records of a group agree in `f`. -/
lemma same_of_separates {γ : Type} {rel : Relation} {name : String} {records : List Record}
    {f : Record → γ} (hseparates : rel.Separates name records f) {computed : Record → Cell}
    (hcomputed : ∀ r ∈ records, ∀ s ∈ records,
      Cell.compare (computed r) (computed s) = .eq → f r = f s)
    {group : Record × List Record} (hgroup : group ∈ groupRecords rel name computed records)
    {record : Record} (hrecord : record ∈ group.2) : f record = f group.1 := by
  have hgrouping := isGrouping_groupRecords rel name computed records
  have hfirst := hgrouping.first_mem_items hgroup
  have hmem := hgrouping.mem_iff.mpr ⟨group, hgroup, hrecord⟩
  have hsame := hgrouping.same_first group hgroup record hrecord
  rw [groupingCell, groupingCell] at hsame
  cases hindex : rel.columnIndex? name with
  | some index =>
      rw [hindex] at hsame
      exact (hseparates index hindex _ hfirst _ hmem hsame).symm
  | none =>
      rw [hindex] at hsame
      exact (hcomputed _ hfirst _ hmem hsame).symm

end TableExplorer
