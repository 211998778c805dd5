import TableExplorer.Grouping
import TableExplorer.Proofs.Sorting

/-!
Groups.  Items are grouped by an equivalence; a group is its items with the first of them.  In the
groups of some items each item stands once, in the group of the items that are the same as it.

* `representatives_pairwise`, `exists_representative`: no two representatives are the same, and each
  item has one.
* `IsGrouping`: what a grouping is; `isGrouping_groupBy`: **grouping by a key is one**.
* `groupBy_pairwise`, `groupBy_swap`: **the keys ascend**, or descend if they are compared the other
  way round.
* `IsGrouping.countP_eq`: a property that the items of each group share is counted group by group.
-/

namespace TableExplorer

variable {α β : Type}

/-! ### Representatives -/

/-- Representatives are some of the items. -/
lemma representatives_sublist (same : α → α → Bool) (items : List α) :
    (representatives same items).Sublist items := by
  induction items with
  | nil => exact List.Sublist.refl _
  | cons x rest ih => exact List.Sublist.cons_cons x (List.filter_sublist.trans ih)

/-- No representative is the same as a later one. -/
lemma representatives_pairwise (same : α → α → Bool) (items : List α) :
    (representatives same items).Pairwise fun x y => same x y = false := by
  induction items with
  | nil => exact List.Pairwise.nil
  | cons x rest ih =>
      refine List.pairwise_cons.mpr ⟨fun y hy => ?_, List.Pairwise.filter _ ih⟩
      simpa using (List.mem_filter.mp hy).2

/-- Each item has a representative. -/
lemma exists_representative {same : α → α → Bool} (hrefl : ∀ x, same x x = true)
    (htrans : ∀ x y z, same x y = true → same y z = true → same x z = true) {items : List α}
    {x : α} (hx : x ∈ items) : ∃ r ∈ representatives same items, same r x = true := by
  induction items with
  | nil => cases hx
  | cons y rest ih =>
      rw [representatives]
      rcases List.mem_cons.mp hx with rfl | hx
      · exact ⟨x, List.mem_cons_self, hrefl x⟩
      · obtain ⟨r, hr, hrx⟩ := ih hx
        by_cases hyr : same y r = true
        · exact ⟨y, List.mem_cons_self, htrans y r x hyr hrx⟩
        · exact ⟨r, List.mem_cons_of_mem _ (List.mem_filter.mpr ⟨hr, by simpa using hyr⟩), hrx⟩

/-- The representatives of items that are computed beforehand. -/
lemma representatives_map (same : α → α → Bool) (f : β → α) (items : List β) :
    representatives same (items.map f) =
      (representatives (fun x y => same (f x) (f y)) items).map f := by
  induction items with
  | nil => rfl
  | cons x rest ih =>
      rw [List.map_cons, representatives, representatives, ih, List.map_cons, List.filter_map]
      rfl

/-! ### Groupings -/

/-- Items in groups, each with its first item: every item stands in one group; the items of a group
are the same as its first one, and the first items of two groups are not. -/
structure IsGrouping (same : α → α → Prop) (items : List α) (groups : List (α × List α)) :
    Prop where
  perm : (groups.flatMap (·.2)).Perm items
  first_mem : ∀ group ∈ groups, group.1 ∈ group.2
  same_first : ∀ group ∈ groups, ∀ item ∈ group.2, same group.1 item
  distinct : groups.Pairwise fun group other => ¬same group.1 other.1

/-- The items that some keys pick, one key after the other, are all items, if each item is picked by
some key and none by two. -/
lemma flatMap_picked_perm {κ : Type} {picks : κ → α → Bool} {keys : List κ} {items : List α}
    (hdisjoint : keys.Pairwise fun k k' => ∀ x, picks k x = true → picks k' x = false)
    (hcover : ∀ x ∈ items, ∃ k ∈ keys, picks k x = true) :
    (keys.flatMap fun k => items.filter (picks k)).Perm items := by
  induction keys generalizing items with
  | nil =>
      cases items with
      | nil => exact List.Perm.refl _
      | cons x rest =>
          obtain ⟨k, hk, -⟩ := hcover x List.mem_cons_self
          cases hk
  | cons k keys ih =>
      obtain ⟨hk, hkeys⟩ := List.pairwise_cons.mp hdisjoint
      let others := items.filter fun x => !picks k x
      -- the other keys pick nothing that the first one does
      have hpicked : ∀ k' ∈ keys, items.filter (picks k') = others.filter (picks k') := by
        intro k' hk'
        rw [List.filter_filter]
        refine List.filter_congr fun x _ => ?_
        cases hx : picks k x with
        | false => rw [Bool.not_false, Bool.and_true]
        | true => rw [hk k' hk' x hx, Bool.false_and]
      have hothers : (keys.flatMap fun k' => others.filter (picks k')).Perm others := by
        refine ih hkeys fun x hx => ?_
        obtain ⟨hx, hne⟩ := List.mem_filter.mp hx
        obtain ⟨k', hk', hpicks⟩ := hcover x hx
        rcases List.mem_cons.mp hk' with rfl | hk'
        · rw [hpicks] at hne
          cases hne
        · exact ⟨k', hk', hpicks⟩
      rw [List.flatMap_cons, List.flatMap_congr hpicked]
      exact (hothers.append_left _).trans (List.filter_append_perm (picks k) items)

/-- The items that are the same as one of some representatives, one representative after the other,
are all items, if each item is the same as some representative and none as two of them. -/
lemma flatMap_filter_perm {same : α → α → Bool}
    (hsymm : ∀ x y, same x y = true → same y x = true)
    (htrans : ∀ x y z, same x y = true → same y z = true → same x z = true) {firsts items : List α}
    (hpairwise : firsts.Pairwise fun x y => same x y = false)
    (hcover : ∀ x ∈ items, ∃ r ∈ firsts, same r x = true) :
    (firsts.flatMap fun r => items.filter (same r)).Perm items := by
  refine flatMap_picked_perm (hpairwise.imp fun {r r'} hr x hrx => ?_) hcover
  rw [← Bool.not_eq_true]
  intro hx
  have htied := htrans r x r' hrx (hsymm r' x hx)
  rw [hr] at htied
  cases htied

/-- No two representatives have equal keys. -/
lemma representatives_pairwise_ne {κ : Type} {cmp : κ → κ → Ordering} (key : α → κ)
    (items : List α) :
    (representatives (fun x y => cmp (key x) (key y) == .eq) items).Pairwise fun x y =>
      cmp (key x) (key y) ≠ .eq := by
  refine (representatives_pairwise _ items).imp fun {x y} hne heq => ?_
  rw [heq] at hne
  cases hne

section

variable {κ : Type} {cmp : κ → κ → Ordering} [Std.TransCmp cmp]

/-- Items with equal keys. -/
private def sameKey (cmp : κ → κ → Ordering) (key : α → κ) (x y : α) : Bool :=
  cmp (key x) (key y) == .eq

/-- **Grouping by a key** puts the items with equal keys together. -/
lemma isGrouping_groupBy (key : α → κ) (items : List α) :
    IsGrouping (fun x y => cmp (key x) (key y) = .eq) items (groupBy cmp key items) := by
  have hrefl : ∀ x, sameKey cmp key x x = true := fun x =>
    beq_iff_eq.mpr Std.ReflCmp.compare_self
  have hsymm : ∀ x y, sameKey cmp key x y = true → sameKey cmp key y x = true := by
    intro x y h
    exact beq_iff_eq.mpr (Std.OrientedCmp.eq_symm (beq_iff_eq.mp h))
  have htrans : ∀ x y z, sameKey cmp key x y = true → sameKey cmp key y z = true →
      sameKey cmp key x z = true := by
    intro x y z hxy hyz
    exact beq_iff_eq.mpr (Std.TransCmp.eq_trans (beq_iff_eq.mp hxy) (beq_iff_eq.mp hyz))
  let firsts := representatives (sameKey cmp key) items
  let sorted := sortBy (fun x y => cmp (key x) (key y)) firsts
  have hsorted : sorted.Perm firsts := sortBy_perm _ _
  have hfirsts : sorted.Pairwise fun x y => sameKey cmp key x y = false := by
    refine (hsorted.pairwise_iff fun {x y} h => ?_).mpr (representatives_pairwise _ items)
    rw [Bool.eq_false_iff] at h ⊢
    exact fun hyx => h (hsymm y x hyx)
  refine ⟨?_, fun group hgroup => ?_, fun group hgroup item hitem => ?_, ?_⟩
  · rw [groupBy, List.flatMap_map]
    refine flatMap_filter_perm hsymm htrans hfirsts fun x hx => ?_
    obtain ⟨r, hr, hrx⟩ := exists_representative hrefl htrans hx
    exact ⟨r, hsorted.mem_iff.mpr hr, hrx⟩
  · obtain ⟨x, hx, rfl⟩ := List.mem_map.mp hgroup
    have hmem := (representatives_sublist _ items).mem (hsorted.mem_iff.mp hx)
    exact List.mem_filter.mpr ⟨hmem, hrefl x⟩
  · obtain ⟨x, -, rfl⟩ := List.mem_map.mp hgroup
    exact beq_iff_eq.mp (List.mem_filter.mp hitem).2
  · rw [groupBy, List.pairwise_map]
    refine hfirsts.imp fun {x y} hne heq => ?_
    rw [sameKey, heq] at hne
    cases hne

/-- The keys of the groups ascend strictly. -/
lemma groupBy_pairwise (key : α → κ) (items : List α) :
    (groupBy cmp key items).Pairwise fun group other => cmp (key group.1) (key other.1) = .lt := by
  have htrans : Std.TransCmp fun x y => cmp (key x) (key y) := transCmp_on key
  rw [groupBy, List.pairwise_map]
  exact sortBy_pairwise_lt (representatives_pairwise_ne key items)

end

/-- A group is all items with the key of its first one. -/
lemma snd_of_mem_groupBy {κ : Type} {cmp : κ → κ → Ordering} {key : α → κ} {items : List α}
    {group : α × List α} (h : group ∈ groupBy cmp key items) :
    group.2 = items.filter fun item => cmp (key group.1) (key item) == .eq := by
  obtain ⟨first, -, rfl⟩ := List.mem_map.mp h
  rfl

/-- Grouping by a key that is computed beforehand. -/
lemma groupBy_map {κ : Type} (cmp : κ → κ → Ordering) (key : α → κ) (f : β → α) (items : List β) :
    groupBy cmp key (items.map f) =
      (groupBy cmp (fun x => key (f x)) items).map fun group => (f group.1, group.2.map f) := by
  rw [groupBy, groupBy, representatives_map, sortBy_map, List.map_map, List.map_map]
  refine List.map_congr_left fun x _ => ?_
  rw [Function.comp_apply, Function.comp_apply, groupOf, groupOf, List.filter_map]
  rfl

namespace IsGrouping

variable {same : α → α → Prop} {items : List α} {groups : List (α × List α)}

/-- Items are grouped alike by what is the same of them. -/
lemma congr {same' : α → α → Prop} (h : IsGrouping same items groups)
    (hsame : ∀ x ∈ items, ∀ y ∈ items, same x y ↔ same' x y) : IsGrouping same' items groups := by
  have hmem : ∀ group ∈ groups, ∀ item ∈ group.2, item ∈ items := fun group hgroup item hitem =>
    h.perm.mem_iff.mp (List.mem_flatMap.mpr ⟨group, hgroup, hitem⟩)
  have hfirst : ∀ group ∈ groups, group.1 ∈ items := fun group hgroup =>
    hmem group hgroup _ (h.first_mem group hgroup)
  refine ⟨h.perm, h.first_mem, fun group hgroup item hitem => ?_, ?_⟩
  · exact (hsame _ (hfirst group hgroup) _ (hmem group hgroup item hitem)).mp
      (h.same_first group hgroup item hitem)
  · refine h.distinct.imp_of_mem fun {a b} ha hb hne heq => hne ?_
    exact (hsame _ (hfirst a ha) _ (hfirst b hb)).mpr heq

/-- The items of the groups are the items. -/
lemma mem_iff (h : IsGrouping same items groups) {item : α} :
    item ∈ items ↔ ∃ group ∈ groups, item ∈ group.2 := by
  rw [← h.perm.mem_iff, List.mem_flatMap]

/-- The first item of a group is one of the items. -/
lemma first_mem_items (h : IsGrouping same items groups) {group : α × List α}
    (hgroup : group ∈ groups) : group.1 ∈ items :=
  h.mem_iff.mpr ⟨group, hgroup, h.first_mem group hgroup⟩

/-- A property that the items of each group share with its first one is counted group by group. -/
lemma countP_eq (h : IsGrouping same items groups) {p : α → Bool}
    (hp : ∀ group ∈ groups, ∀ item ∈ group.2, p item = p group.1) :
    items.countP p =
      ((groups.filter fun group => p group.1).map fun group => group.2.length).sum := by
  rw [← h.perm.countP_eq]
  clear h
  induction groups with
  | nil => rfl
  | cons group rest ih =>
      have hgroup := hp group List.mem_cons_self
      have hrest := ih fun g hg => hp g (List.mem_cons_of_mem _ hg)
      rw [List.flatMap_cons, List.countP_append, hrest, List.filter_cons]
      cases hfirst : p group.1 with
      | true =>
          have hall : group.2.countP p = group.2.length :=
            List.countP_eq_length.mpr fun item hitem => (hgroup item hitem).trans hfirst
          rw [hall, if_pos rfl, List.map_cons, List.sum_cons]
      | false =>
          have hnone : group.2.countP p = 0 := by
            refine List.countP_eq_zero.mpr fun item hitem => ?_
            rw [hgroup item hitem, hfirst]
            exact Bool.false_ne_true
          rw [hnone, Nat.zero_add, if_neg Bool.false_ne_true]

end IsGrouping

end TableExplorer
