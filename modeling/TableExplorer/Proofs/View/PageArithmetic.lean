import TableExplorer.Proofs.View.Pagination
import TableExplorer.Word

/-!
The arithmetic of pages on words of 64 bits.  `PageWindow.compute` counts in natural numbers;
`PageWindow.computeInWords?` takes the same steps on words, and gives nothing if a step leaves their
range or divides by zero.

* `Word.unsigned?_eq_some_iff`, `Word.exists_ceilDiv?`: a step on words that gives a word gives the
  value of the step on numbers.
* `PageWindow.pred_pages_mul_le`: **the pages before the last one hold no more rows than there
  are**, which is why no step leaves the range of words.
* `PageWindow.IsWindowOf`, `PageWindow.Covers`: what a window is, and what the windows of all pages
  are.
* `PageWindow.computeInWords?_eq`: **page arithmetic is exact on words**.
-/

namespace TableExplorer

namespace Word

/-! ### Steps on words -/

/-- The unsigned word with this value, if there is one. -/
def unsigned? (value : Int) : Option UInt64 := (size? value).map .ofNat

/-- The greatest unsigned word. -/
def greatest : UInt64 := .ofNat (bound - 1)

/-- The quotient of two words rounded up, unless the divisor is zero. -/
def ceilDiv? (a b : UInt64) : Option UInt64 :=
  if b = 0 then none
  else if a % b = 0 then some (a / b)
  else unsigned? ((a / b).toNat + 1)

/-- A value has a word if and only if it is the number of one. -/
lemma unsigned?_eq_some_iff {value : Int} {w : UInt64} :
    unsigned? value = some w ↔ (w.toNat : Int) = value := by
  have hw : w.toNat < bound := w.toNat_lt
  rw [unsigned?, size?]
  constructor
  · intro h
    split_ifs at h with hrange
    · have hlt : value.toNat < bound := by omega
      rw [Option.map_some, Option.some_inj] at h
      rw [← h, UInt64.toNat_ofNat_of_lt' hlt, Int.toNat_of_nonneg hrange.1]
    · cases h
  · rintro rfl
    rw [if_pos ⟨Int.natCast_nonneg _, Int.ofNat_lt.mpr hw⟩, Option.map_some, Int.toNat_natCast,
      UInt64.ofNat_toNat]

/-- A number in the range of words has a word. -/
lemma exists_unsigned? {n : Nat} (h : n < bound) :
    ∃ w : UInt64, unsigned? n = some w ∧ w.toNat = n := by
  have hn : (UInt64.ofNat n).toNat = n := UInt64.toNat_ofNat_of_lt' h
  exact ⟨.ofNat n, unsigned?_eq_some_iff.mpr (congrArg Nat.cast hn), hn⟩

/-- **A quotient is rounded up within words**: only a divisor of at least two leaves a rest, and
the quotient by such a divisor is not the greatest word. -/
lemma exists_ceilDiv? (a : UInt64) {b : UInt64} (hb : 0 < b.toNat) :
    ∃ w : UInt64, ceilDiv? a b = some w ∧ w.toNat = (a.toNat + b.toNat - 1) / b.toNat := by
  have hne : b ≠ 0 := by
    rintro rfl
    exact absurd hb (lt_irrefl 0)
  have hsplit := Nat.div_add_mod' a.toNat b.toNat
  have hrestLt := Nat.mod_lt a.toNat hb
  rw [ceilDiv?, if_neg hne]
  by_cases hrest : a % b = 0
  · have hmod : a.toNat % b.toNat = 0 := by
      rw [← UInt64.toNat_mod, hrest]
      rfl
    refine ⟨a / b, if_pos hrest, ?_⟩
    rw [UInt64.toNat_div]
    exact (Nat.div_eq_of_lt_le (by omega) (by rw [Nat.succ_mul]; omega)).symm
  · have hmod : a.toNat % b.toNat ≠ 0 := by
      intro h
      rw [← UInt64.toNat_mod] at h
      exact hrest (UInt64.toNat_inj.mp h)
    have htwo : 2 ≤ b.toNat := by omega
    have hquotient : a.toNat / b.toNat + 1 < bound := by
      have hle : a.toNat / b.toNat * 2 ≤ a.toNat :=
        (Nat.mul_le_mul_left _ htwo).trans (Nat.div_mul_le_self _ _)
      have hlt : a.toNat < bound := a.toNat_lt
      omega
    obtain ⟨w, hw, hvalue⟩ := exists_unsigned? hquotient
    refine ⟨w, ?_, hvalue.trans ?_⟩
    · rw [if_neg hrest, UInt64.toNat_div]
      exact hw
    · exact (Nat.div_eq_of_lt_le (by rw [Nat.succ_mul]; omega)
        (by rw [Nat.succ_mul, Nat.succ_mul]; omega)).symm

end Word

namespace PageWindow

/-! ### The window in natural numbers -/

section

variable (total size : Nat) (n : Int)

/-- The pages are the quotient of the rows by the size of a page, rounded up, and at least one. -/
lemma pages_eq : (compute total size n).pages =
    max 1 ⌈(total : ℚ) / (max size 1 : Nat)⌉₊ := by
  have hsize : 0 < max size 1 := by omega
  have hceil : ⌈(total : ℚ) / (max size 1 : Nat)⌉₊ =
      (total + max size 1 - 1) / max size 1 := by
    refine eq_of_forall_ge_iff fun k => ?_
    rw [Nat.ceil_le, div_le_iff₀ (Nat.cast_pos.mpr hsize), ← Nat.cast_mul, Nat.cast_le,
      Nat.div_le_iff_le_mul_add_pred hsize, Nat.mul_comm k]
    omega
  rw [hceil, max_comm]
  rfl

/-- The pages before the last one hold fewer rows than there are, if there are any. -/
lemma pred_pages_mul_le : ((compute total size n).pages - 1) * max size 1 ≤ total - 1 := by
  have hsize : 0 < max size 1 := by omega
  have hdiv := Nat.div_mul_le_self (total + max size 1 - 1) (max size 1)
  have hpages : (compute total size n).pages =
      max ((total + max size 1 - 1) / max size 1) 1 := rfl
  rw [hpages, Nat.sub_mul, Nat.one_mul]
  rcases Nat.le_total 1 ((total + max size 1 - 1) / max size 1) with hle | hle
  · rw [max_eq_left hle]
    omega
  · rw [max_eq_right hle]
    omega

/-- The page that is served is one of the pages. -/
lemma page_le_pages :
    1 ≤ (compute total size n).page ∧
      (compute total size n).page ≤ (compute total size n).pages := by
  have hpages : 1 ≤ (compute total size n).pages := Nat.le_max_right _ 1
  have hpage : (compute total size n).page = min (max n 1).toNat (compute total size n).pages := rfl
  omega

/-- The rows before a page are fewer than there are, if there are any. -/
lemma offset_le : (compute total size n).offset ≤ total - 1 := by
  refine le_trans (Nat.mul_le_mul_right _ ?_) (pred_pages_mul_le total size n)
  exact Nat.sub_le_sub_right (page_le_pages total size n).2 1

/-- A page with another one behind it is full. -/
lemma limit_of_lt_pages (h : (compute total size n).page < (compute total size n).pages) :
    (compute total size n).limit = max size 1 := by
  have hoffset : (compute total size n).offset + max size 1 =
      (compute total size n).page * max size 1 := by
    have hpage := (page_le_pages total size n).1
    rw [← Nat.sub_add_cancel hpage, Nat.succ_mul]
    rfl
  have hnext : (compute total size n).page * max size 1 ≤ total - 1 :=
    le_trans (Nat.mul_le_mul_right _ (Nat.le_sub_one_of_lt h)) (pred_pages_mul_le total size n)
  have hlimit : (compute total size n).limit =
      min (max size 1) (total - (compute total size n).offset) := rfl
  omega

end

/-- What the window of a requested page is: the page is the requested one or the nearest that
exists, the window begins behind the full pages before it, and it ends within the rows. -/
structure IsWindowOf (total size : Nat) (requested : Int) (w : PageWindow) : Prop where
  total_eq : w.total = total
  pageSize_eq : w.pageSize = max size 1
  pages_eq : w.pages = max 1 ⌈(total : ℚ) / w.pageSize⌉₊
  page_eq : (w.page : Int) = max 1 (min requested w.pages)
  offset_eq : (w.offset : Int) = (w.page - 1) * w.pageSize
  inside : w.offset + w.limit ≤ total
  empty_iff : w.limit = 0 ↔ total = 0
  full : w.isLast = false → w.limit = w.pageSize

/-- The window that is computed is that of the requested page. -/
lemma isWindowOf_compute (total size : Nat) (requested : Int) :
    IsWindowOf total size requested (compute total size requested) := by
  have hpage := page_le_pages total size requested
  have hoffset := offset_le total size requested
  have hlimit : (compute total size requested).limit =
      min (max size 1) (total - (compute total size requested).offset) := rfl
  refine ⟨rfl, rfl, pages_eq total size requested, ?_, ?_, ?_, ?_, fun hlast => ?_⟩
  · have hclamp : (compute total size requested).page =
        min (max requested 1).toNat (compute total size requested).pages := rfl
    omega
  · have hoffset_eq : (compute total size requested).offset =
        ((compute total size requested).page - 1) * (compute total size requested).pageSize := rfl
    rw [hoffset_eq, Nat.cast_mul, Nat.cast_sub hpage.1, Nat.cast_one]
  · omega
  · omega
  · refine limit_of_lt_pages total size requested (lt_of_le_of_ne hpage.2 fun heq => ?_)
    rw [isLast, heq, beq_self_eq_true] at hlast
    cases hlast

/-- What the windows of all pages are: each begins where the one before it ends, and one after the
other they are the places of all rows. -/
structure Covers (total : Nat) (window : Nat → PageWindow) (pages : Nat) : Prop where
  consecutive : ∀ i, i + 1 < pages →
    (window (i + 1)).offset = (window i).offset + (window i).limit
  cover : (List.range pages).flatMap (fun i => List.range' (window i).offset (window i).limit) =
    List.range total

/-- The places of a window are its part of the places of all rows. -/
lemma range'_offset_limit (total size : Nat) (n : Int) :
    List.range' (compute total size n).offset (compute total size n).limit =
      (compute total size n).slice (List.range total) := by
  have hlimit : (compute total size n).limit ≤ total - (compute total size n).offset :=
    Nat.min_le_right _ _
  have hrest : List.range' (compute total size n).offset (total - (compute total size n).offset) =
      List.range' (compute total size n).offset (compute total size n).limit ++
        List.range' ((compute total size n).offset + (compute total size n).limit)
          (total - (compute total size n).offset - (compute total size n).limit) := by
    rw [List.range'_append_1, Nat.add_sub_cancel' hlimit]
  rw [slice, List.range_eq_range', List.drop_range', Nat.mul_one, Nat.zero_add, hrest,
    List.take_left' List.length_range']

/-- **The windows of all pages cover the rows.** -/
lemma covers_compute (total size : Nat) (requested : Int) :
    Covers total (fun i => compute total size (i + 1)) (compute total size requested).pages := by
  refine ⟨fun i hi => ?_, ?_⟩
  · have hnext : i + 1 < (compute total size 1).pages := hi
    have hpage : (compute total size (i + 1)).page < (compute total size (i + 1)).pages := by
      have hclamp : (compute total size (i + 1)).page =
          min (max (i + 1 : Int) 1).toNat (compute total size 1).pages := rfl
      show _ < (compute total size 1).pages
      omega
    rw [offset_of_lt_pages hnext, offset_of_lt_pages (Nat.lt_of_succ_lt hnext),
      limit_of_lt_pages total size _ hpage, Nat.succ_mul]
  · have hcover := flatMap_slice (List.range total) size
    rw [List.length_range] at hcover
    simp only [range'_offset_limit]
    exact hcover

/-! ### The window on words -/

/-- The window of the requested page, found on words: nothing if a step leaves their range or
divides by zero.  A page that no unsigned word holds is the greatest one, and fewer than no rows
are none. -/
def computeInWords? (total pageSize : UInt64) (requested : Int64) : Option PageWindow := do
  let pageSize := max pageSize 1
  let pages := max (← Word.ceilDiv? total pageSize) 1
  let asked := if requested < 1 then 1 else requested
  let page := min ((Word.unsigned? asked.toInt).getD Word.greatest) pages
  let before ← Word.unsigned? (page.toNat - 1)
  let offset ← Word.unsigned? (before.toNat * pageSize.toNat)
  let left := (Word.unsigned? (total.toNat - offset.toNat)).getD 0
  let limit := min pageSize left
  return ⟨page.toNat, pages.toNat, pageSize.toNat, offset.toNat, limit.toNat, total.toNat⟩

/-- The page that is asked for, as a word. -/
lemma exists_asked? (requested : Int64) : ∃ w : UInt64,
    Word.unsigned? (if requested < 1 then 1 else requested).toInt = some w ∧
      w.toNat = (max requested.toInt 1).toNat := by
  have hasked : (if requested < 1 then 1 else requested).toInt = max requested.toInt 1 := by
    have hone : (1 : Int64).toInt = 1 := by decide
    split_ifs with h
    · rw [Int64.lt_iff_toInt_lt, hone] at h
      rw [hone, max_eq_right h.le]
    · rw [Int64.lt_iff_toInt_lt, hone] at h
      rw [max_eq_left (not_lt.mp h)]
  have hrange : (max requested.toInt 1).toNat < Word.bound := by
    have hlt := requested.toInt_lt
    have hbound : Word.bound = 2 ^ 64 := rfl
    omega
  obtain ⟨w, hw, hvalue⟩ := Word.exists_unsigned? hrange
  refine ⟨w, ?_, hvalue⟩
  rw [hasked, ← Int.toNat_of_nonneg (le_max_of_le_right Int.one_nonneg)]
  exact hw

/-- On words the same window is found as on numbers. -/
lemma computeInWords?_eq_some (total pageSize : UInt64) (requested : Int64) :
    computeInWords? total pageSize requested =
      some (compute total.toNat pageSize.toNat requested.toInt) := by
  have htotal : total.toNat < Word.bound := total.toNat_lt
  have hone : (1 : UInt64).toNat = 1 := UInt64.toNat_one
  have hsize : (max pageSize 1).toNat = max pageSize.toNat 1 := by rw [UInt64.toNat_max, hone]
  obtain ⟨quotient, hquotient, hquotientValue⟩ := Word.exists_ceilDiv? total (b := max pageSize 1)
    (by omega)
  obtain ⟨asked, hasked, haskedValue⟩ := exists_asked? requested
  have hpages : (max quotient 1).toNat =
      (compute total.toNat pageSize.toNat requested.toInt).pages := by
    rw [UInt64.toNat_max, hquotientValue, hsize, hone]
    rfl
  have hpage : (min asked (max quotient 1)).toNat =
      (compute total.toNat pageSize.toNat requested.toInt).page := by
    rw [UInt64.toNat_min, haskedValue, hpages]
    rfl
  -- the rows before the page are counted within words, since they are at most all rows
  have hpageLe := page_le_pages total.toNat pageSize.toNat requested.toInt
  have hoffsetLe := offset_le total.toNat pageSize.toNat requested.toInt
  obtain ⟨before, hbefore, hbeforeValue⟩ := Word.exists_unsigned?
    (n := (min asked (max quotient 1)).toNat - 1) (by
      have hlt : (min asked (max quotient 1)).toNat < Word.bound := UInt64.toNat_lt _
      omega)
  have hoffset : before.toNat * (max pageSize 1).toNat =
      (compute total.toNat pageSize.toNat requested.toInt).offset := by
    rw [hbeforeValue, hpage, hsize]
    rfl
  obtain ⟨offset, hoffsetWord, hoffsetValue⟩ := Word.exists_unsigned?
    (n := before.toNat * (max pageSize 1).toNat) (by omega)
  obtain ⟨left, hleft, hleftValue⟩ := Word.exists_unsigned?
    (n := total.toNat - offset.toNat) (by omega)
  have hlimit : (min (max pageSize 1) left).toNat =
      (compute total.toNat pageSize.toNat requested.toInt).limit := by
    rw [UInt64.toNat_min, hleftValue, hsize, hoffsetValue, hoffset]
    rfl
  rw [Nat.cast_sub (by omega), Nat.cast_one] at hbefore
  rw [Nat.cast_mul] at hoffsetWord
  rw [Nat.cast_sub (by omega)] at hleft
  -- the steps one after the other, each word known to exist
  have hsteps : computeInWords? total pageSize requested =
      some ⟨(min asked (max quotient 1)).toNat, (max quotient 1).toNat, (max pageSize 1).toNat,
        offset.toNat, (min (max pageSize 1) left).toNat, total.toNat⟩ := by
    refine Option.bind_eq_some_iff.mpr ⟨_, hquotient, ?_⟩
    simp only [hasked, Option.getD_some]
    refine Option.bind_eq_some_iff.mpr ⟨_, hbefore, ?_⟩
    refine Option.bind_eq_some_iff.mpr ⟨_, hoffsetWord, ?_⟩
    rw [hleft]
    rfl
  rw [hsteps, hpage, hpages, hlimit, hoffsetValue, hoffset, hsize]
  rfl

/-- **Page arithmetic is exact on words**: for all numbers of rows, sizes and requested pages that
words of 64 bits hold, no step leaves the range of words or divides by zero; what is found is the
window of the requested page, and the windows of all pages cover the rows, those of pages whose
number no signed word holds included. -/
theorem computeInWords?_eq (total pageSize : UInt64) (requested : Int64) :
    ∃ w, computeInWords? total pageSize requested = some w ∧
      w = compute total.toNat pageSize.toNat requested.toInt ∧
      IsWindowOf total.toNat pageSize.toNat requested.toInt w ∧
      Covers total.toNat (fun i => compute total.toNat pageSize.toNat (i + 1)) w.pages :=
  ⟨_, computeInWords?_eq_some total pageSize requested, rfl, isWindowOf_compute _ _ _,
    covers_compute _ _ _⟩

end PageWindow

end TableExplorer
