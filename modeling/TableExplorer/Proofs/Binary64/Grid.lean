import Mathlib
import TableExplorer.Binary64.Rounding

/-!
Rounding to the numbers of the binary64 format, counted in quanta.  Near `n` quanta the numbers of
the format are `spacing n` apart, and `n` is one of them if the spacing divides it.  The rounded
number is one of them; no other one is nearer to the exact quotient; and if another one is as near,
the rounded number has an even significand.

* `roundQuotient_cases`: **what a rounded quotient is**; `dist_roundQuotient_le`,
  `two_dvd_roundQuotient`: it is nearest, and even if there are two.
* `spacing_dvd_roundToQuanta`: **the rounded number is one of the format's**;
  `roundToQuanta_le`, `le_roundToQuanta`: it stays on the same side of all others.
* `dist_roundToQuanta_le`, `two_mul_spacing_dvd_roundToQuanta`: **no other number of the format is
  nearer**, and of two it is the even one.
* `roundToQuanta_eq_of_close`: **a quotient that is close to a number of the format rounds to it**.
-/

namespace TableExplorer

/-! ### Quotients -/

section

variable {tie : Tie} {num den k : Nat}

/-- A rounded quotient is what lies below or above it, whichever is nearer; of two that are as near,
ties to even take the even one. -/
lemma roundQuotient_cases (tie : Tie) (num den : Nat) :
    (roundQuotient tie num den = num / den ∧ 2 * (num % den) ≤ den ∧
        (2 * (num % den) = den → 2 ∣ num / den)) ∨
      (roundQuotient tie num den = num / den + 1 ∧ den ≤ 2 * (num % den) ∧
        (2 * (num % den) = den → tie = .toEven → 2 ∣ num / den + 1)) := by
  unfold roundQuotient
  dsimp only
  split
  · rename_i hlt
    rw [Nat.compare_eq_lt] at hlt
    exact Or.inl ⟨rfl, hlt.le, fun heq => absurd heq hlt.ne⟩
  · rename_i hgt
    rw [Nat.compare_eq_gt] at hgt
    exact Or.inr ⟨rfl, hgt.le, fun heq => absurd heq hgt.ne'⟩
  · rename_i heq
    rw [Nat.compare_eq_eq] at heq
    cases tie with
    | awayFromZero => exact Or.inr ⟨rfl, heq.ge, fun _ h => nomatch h⟩
    | toEven =>
        dsimp only
        split
        · exact Or.inl ⟨rfl, heq.le, fun _ => by omega⟩
        · exact Or.inr ⟨rfl, heq.ge, fun _ _ => by omega⟩

/-- A multiple of `den` lies at the quotient, just above it, or farther away. -/
lemma mul_quotient_cases (num den k : Nat) :
    den * k + den ≤ den * (num / den) ∨ k = num / den ∨ k = num / den + 1 ∨
      den * (num / den) + 2 * den ≤ den * k := by
  rcases Nat.lt_or_ge k (num / den) with h | h
  · have hmul := Nat.mul_le_mul_left den (Nat.succ_le_of_lt h)
    rw [Nat.mul_succ] at hmul
    exact Or.inl hmul
  · rcases Nat.lt_or_ge (num / den + 1) k with h' | h'
    · have hmul := Nat.mul_le_mul_left den (Nat.succ_le_of_lt h')
      rw [Nat.mul_succ, Nat.mul_succ] at hmul
      omega
    · omega

/-- A quotient that is at most a whole number is not rounded beyond it. -/
lemma roundQuotient_le (hden : 0 < den) (h : num ≤ den * k) : roundQuotient tie num den ≤ k := by
  have hsplit := Nat.div_add_mod num den
  have hmod := Nat.mod_lt num hden
  rcases roundQuotient_cases tie num den with ⟨hr, -⟩ | ⟨hr, hhalf, -⟩
  · rw [hr]
    exact (Nat.div_le_div_right h).trans_eq (Nat.mul_div_cancel_left k hden)
  · -- something is left over, so the quotient lies strictly below
    rw [hr]
    rcases mul_quotient_cases num den k with hk | rfl | rfl | hk
    · omega
    · omega
    · exact le_rfl
    · refine Nat.le_of_mul_le_mul_left ?_ hden
      rw [Nat.mul_succ]
      omega

/-- A quotient that is at least a whole number is not rounded below it. -/
lemma le_roundQuotient (hden : 0 < den) (h : den * k ≤ num) : k ≤ roundQuotient tie num den := by
  have hdiv : k ≤ num / den := (Nat.le_div_iff_mul_le hden).mpr (Nat.mul_comm den k ▸ h)
  rcases roundQuotient_cases tie num den with ⟨hr, -⟩ | ⟨hr, -⟩ <;> omega

/-- A whole quotient is not rounded. -/
lemma roundQuotient_mul_self (hden : 0 < den) : roundQuotient tie (den * k) den = k :=
  le_antisymm (roundQuotient_le hden le_rfl) (le_roundQuotient hden le_rfl)

/-- Rounding sees the quotient only. -/
lemma roundQuotient_mul_right {c : Nat} (hc : 0 < c) :
    roundQuotient tie (num * c) (den * c) = roundQuotient tie num den := by
  have hcompare : compare (2 * (num % den * c)) (den * c) = compare (2 * (num % den)) den := by
    rw [← Nat.mul_assoc]
    rcases Nat.lt_trichotomy (2 * (num % den)) den with h | h | h
    · rw [Nat.compare_eq_lt.mpr h, Nat.compare_eq_lt]
      exact Nat.mul_lt_mul_of_pos_right h hc
    · rw [h]
      simp
    · rw [Nat.compare_eq_gt.mpr h, Nat.compare_eq_gt]
      exact Nat.mul_lt_mul_of_pos_right h hc
  unfold roundQuotient
  rw [Nat.mul_mod_mul_right, Nat.mul_div_mul_right _ _ hc, hcompare]

/-- **No whole number is nearer** than the rounded quotient. -/
lemma dist_roundQuotient_le (hden : 0 < den) (k : Nat) :
    Nat.dist num (den * roundQuotient tie num den) ≤ Nat.dist num (den * k) := by
  have hsplit := Nat.div_add_mod num den
  have hmod := Nat.mod_lt num hden
  have hside := mul_quotient_cases num den k
  unfold Nat.dist
  rcases roundQuotient_cases tie num den with ⟨hr, hhalf, -⟩ | ⟨hr, hhalf, -⟩
  · rw [hr]
    rcases hside with hk | rfl | rfl | hk
    · omega
    · omega
    · rw [Nat.mul_succ]
      omega
    · omega
  · rw [hr, Nat.mul_succ]
    rcases hside with hk | rfl | rfl | hk
    · omega
    · omega
    · rw [Nat.mul_succ]
    · omega

/-- The rounded quotient is half a unit away at most. -/
lemma two_mul_dist_roundQuotient_le (hden : 0 < den) :
    2 * Nat.dist num (den * roundQuotient tie num den) ≤ den := by
  have hsplit := Nat.div_add_mod num den
  have hmod := Nat.mod_lt num hden
  unfold Nat.dist
  rcases roundQuotient_cases tie num den with ⟨hr, hhalf, -⟩ | ⟨hr, hhalf, -⟩
  · rw [hr]
    omega
  · rw [hr, Nat.mul_succ]
    omega

/-- A quotient is rounded to a number that lies within half a unit of it. -/
lemma roundQuotient_eq_of_dist_lt (hden : 0 < den) (h : 2 * Nat.dist num (den * k) < den) :
    roundQuotient tie num den = k := by
  have hrounded : Nat.dist num (den * roundQuotient tie num den) ≤ Nat.dist num (den * k) :=
    dist_roundQuotient_le hden k
  by_contra hne
  have htriangle := Nat.dist.triangle_inequality (den * roundQuotient tie num den) num (den * k)
  rw [Nat.dist_comm (den * _) num, Nat.dist_mul_left] at htriangle
  have hstep := Nat.le_mul_of_pos_right den (Nat.dist_pos_of_ne hne)
  omega

/-- **If another whole number is as near**, the rounded quotient is even. -/
lemma two_dvd_roundQuotient (hden : 0 < den) (hne : k ≠ roundQuotient .toEven num den)
    (h : Nat.dist num (den * k) ≤ Nat.dist num (den * roundQuotient .toEven num den)) :
    2 ∣ roundQuotient .toEven num den := by
  have hsplit := Nat.div_add_mod num den
  have hmod := Nat.mod_lt num hden
  have hside := mul_quotient_cases num den k
  unfold Nat.dist at h
  rcases roundQuotient_cases .toEven num den with ⟨hr, hhalf, heven⟩ | ⟨hr, hhalf, heven⟩
  · rw [hr] at h hne ⊢
    refine heven ?_
    rcases hside with hk | rfl | rfl | hk
    · omega
    · exact absurd rfl hne
    · rw [Nat.mul_succ] at h
      omega
    · omega
  · rw [hr] at h hne ⊢
    rw [Nat.mul_succ] at h
    refine heven ?_ rfl
    rcases hside with hk | rfl | rfl | hk
    · omega
    · omega
    · exact absurd rfl hne
    · omega

end

namespace Binary64

/-! ### Spacing -/

/-- There are quanta in the number one. -/
lemma quantaPerUnit_pos : 0 < quantaPerUnit := by
  unfold quantaPerUnit
  -- the power itself is too large to be computed
  generalize 1074 = n
  exact Nat.two_pow_pos n

/-- How far apart the numbers of the format are near so many quanta. -/
def spacing (quanta : Nat) : Nat := 2 ^ (quanta.log2 - 52)

variable {m n num den k : Nat}

lemma spacing_pos (n : Nat) : 0 < spacing n := Nat.two_pow_pos _

/-- The numbers of the format are those below the overflow that their spacing divides. -/
lemma representable_iff : Representable n ↔ n < overflow ∧ spacing n ∣ n := by
  rw [Representable, Nat.pow_eq, Nat.dvd_iff_mod_eq_zero, spacing]

/-- A number is less than so many times its spacing. -/
lemma lt_mul_spacing (n : Nat) : n < 2 ^ 53 * spacing n := by
  rw [spacing, ← pow_add]
  exact Nat.lt_log2_self.trans_le (Nat.pow_le_pow_right (by decide) (by omega))

/-- The spacing of a number that lies below a power of two. -/
lemma spacing_dvd_of_lt {e : Nat} (h : n < 2 ^ (53 + e)) : spacing n ∣ 2 ^ e := by
  rcases Nat.eq_zero_or_pos n with rfl | hpos
  · exact Nat.one_dvd _
  · have hlog : n.log2 < 53 + e := (Nat.log2_lt hpos.ne').mpr h
    exact Nat.pow_dvd_pow 2 (by omega)

/-- The spacing of a power of two divides it. -/
lemma spacing_two_pow_dvd (e : Nat) : spacing (2 ^ e) ∣ 2 ^ e := by
  rw [spacing, Nat.log2_two_pow]
  exact Nat.pow_dvd_pow 2 (by omega)

lemma spacing_overflow_dvd : spacing overflow ∣ overflow := by
  unfold overflow
  -- the power itself is too large to be computed
  generalize 2098 = e
  exact spacing_two_pow_dvd e

/-- The spacing of a spacing with binary zeros after it divides it. -/
lemma spacing_spacing_mul_dvd (n e : Nat) : spacing (spacing n * 2 ^ e) ∣ spacing n * 2 ^ e := by
  have hpow : spacing n * 2 ^ e = 2 ^ (n.log2 - 52 + e) := (pow_add _ _ _).symm
  rw [hpow]
  exact spacing_two_pow_dvd _

/-- Larger numbers have the larger spacing. -/
lemma spacing_dvd_spacing (h : m ≤ n) : spacing m ∣ spacing n := by
  refine spacing_dvd_of_lt ((h.trans_lt (lt_mul_spacing n)).trans_eq ?_)
  rw [spacing, pow_add]

/-- A number of the format is a multiple of the spacing near `n`, or some other multiple lies
between it and `n`. -/
lemma spacing_dvd_or_lt (hk : spacing k ∣ k) (n : Nat) :
    spacing n ∣ k ∨ ∃ p, k < p ∧ p ≤ n ∧ spacing n ∣ p := by
  rcases Nat.eq_zero_or_pos n with rfl | hpos
  · exact Or.inl (Nat.one_dvd k)
  rcases Nat.lt_or_ge k (2 ^ n.log2) with hlt | hge
  · exact Or.inr ⟨2 ^ n.log2, hlt, Nat.log2_self_le hpos.ne', Nat.pow_dvd_pow 2 (by omega)⟩
  · have hkpos : k ≠ 0 := (Nat.lt_of_lt_of_le (Nat.two_pow_pos _) hge).ne'
    have hlog : n.log2 ≤ k.log2 := (Nat.le_log2 hkpos).mpr hge
    exact Or.inl ((Nat.pow_dvd_pow 2 (by omega)).trans hk)

/-! ### Rounding -/

/-- Rounding is to a multiple of the spacing near the quotient. -/
lemma roundToQuanta_eq (num den : Nat) :
    roundToQuanta num den =
      spacing (num / den) * roundQuotient .toEven num (den * spacing (num / den)) := by
  rw [roundToQuanta, Nat.mul_comm, spacing, Nat.pow_eq]

/-- Rounding sees the quotient only. -/
lemma roundToQuanta_mul_right {c : Nat} (hc : 0 < c) :
    roundToQuanta (num * c) (den * c) = roundToQuanta num den := by
  rw [roundToQuanta_eq, roundToQuanta_eq, Nat.mul_div_mul_right _ _ hc, Nat.mul_right_comm den c,
    roundQuotient_mul_right hc]

section

variable (hden : 0 < den)

include hden

/-- A quotient that is at most a number of the format is not rounded beyond it. -/
lemma roundToQuanta_le (hk : spacing k ∣ k) (h : num ≤ den * k) : roundToQuanta num den ≤ k := by
  have hquotient : num / den ≤ k := Nat.div_le_of_le_mul h
  obtain ⟨j, hj⟩ : spacing (num / den) ∣ k := (spacing_dvd_spacing hquotient).trans hk
  rw [roundToQuanta_eq, hj]
  refine Nat.mul_le_mul_left _ (roundQuotient_le (Nat.mul_pos hden (spacing_pos _)) ?_)
  rwa [Nat.mul_assoc, ← hj]

/-- A quotient that is at least a number of the format is not rounded below it. -/
lemma le_roundToQuanta (hk : spacing k ∣ k) (h : den * k ≤ num) : k ≤ roundToQuanta num den := by
  have hmultiple : ∀ p, spacing (num / den) ∣ p → den * p ≤ num → p ≤ roundToQuanta num den := by
    rintro p ⟨j, rfl⟩ hp
    rw [roundToQuanta_eq]
    refine Nat.mul_le_mul_left _ (le_roundQuotient (Nat.mul_pos hden (spacing_pos _)) ?_)
    rwa [Nat.mul_assoc]
  rcases spacing_dvd_or_lt hk (num / den) with hdvd | ⟨p, hkp, hp, hdvd⟩
  · exact hmultiple k hdvd h
  · exact hkp.le.trans (hmultiple p hdvd
      ((Nat.mul_le_mul_left den hp).trans (Nat.mul_div_le num den)))

/-- A number of the format is not rounded. -/
lemma roundToQuanta_mul_self (hk : spacing k ∣ k) : roundToQuanta (den * k) den = k :=
  le_antisymm (roundToQuanta_le hden hk le_rfl) (le_roundToQuanta hden hk le_rfl)

/-- The rounded quotient has at most 53 digits, or is the first number with more. -/
lemma roundQuotient_spacing_le (num : Nat) :
    roundQuotient .toEven num (den * spacing (num / den)) ≤ 2 ^ 53 := by
  refine roundQuotient_le (Nat.mul_pos hden (spacing_pos _)) ?_
  have hquotient := lt_mul_spacing (num / den)
  rw [Nat.div_lt_iff_lt_mul hden] at hquotient
  calc num ≤ 2 ^ 53 * spacing (num / den) * den := hquotient.le
    _ = den * spacing (num / den) * 2 ^ 53 := by ring

omit hden in
/-- The spacing near the rounded number is that near the quotient, unless the number is the first
one with more digits. -/
lemma spacing_dvd_of_roundQuotient_lt
    (h : roundQuotient .toEven num (den * spacing (num / den)) < 2 ^ 53) :
    spacing (roundToQuanta num den) ∣ spacing (num / den) := by
  refine spacing_dvd_of_lt ?_
  rw [roundToQuanta_eq, pow_add, Nat.mul_comm, ← spacing]
  exact Nat.mul_lt_mul_of_pos_right h (spacing_pos _)

/-- **The rounded number is one of the format's**, if it lies below the overflow. -/
lemma spacing_dvd_roundToQuanta (num : Nat) :
    spacing (roundToQuanta num den) ∣ roundToQuanta num den := by
  rcases (roundQuotient_spacing_le hden num).lt_or_eq with hlt | heq
  · refine (spacing_dvd_of_roundQuotient_lt hlt).trans ?_
    rw [roundToQuanta_eq]
    exact Nat.dvd_mul_right _ _
  · rw [roundToQuanta_eq, heq]
    exact spacing_spacing_mul_dvd _ _

/-- No multiple of the spacing near the quotient is nearer to it than the rounded number. -/
lemma dist_roundToQuanta_le_of_dvd (hk : spacing (num / den) ∣ k) :
    Nat.dist num (den * roundToQuanta num den) ≤ Nat.dist num (den * k) := by
  obtain ⟨j, rfl⟩ := hk
  rw [roundToQuanta_eq, ← Nat.mul_assoc, ← Nat.mul_assoc]
  exact dist_roundQuotient_le (Nat.mul_pos hden (spacing_pos _)) j

/-- A number below some multiple of the spacing near the quotient is not as near as the rounded
number. -/
lemma dist_roundToQuanta_lt {p : Nat} (hkp : k < p) (hp : p ≤ num / den)
    (hdvd : spacing (num / den) ∣ p) :
    Nat.dist num (den * roundToQuanta num den) < Nat.dist num (den * k) := by
  have hmul := Nat.mul_lt_mul_of_pos_left hkp hden
  have hle := (Nat.mul_le_mul_left den hp).trans (Nat.mul_div_le num den)
  refine (dist_roundToQuanta_le_of_dvd hden hdvd).trans_lt ?_
  rw [Nat.dist_eq_sub_of_le_right hle, Nat.dist_eq_sub_of_le_right (hmul.le.trans hle)]
  omega

/-- **No other number of the format is nearer** to the quotient than the rounded one. -/
lemma dist_roundToQuanta_le (hk : spacing k ∣ k) (num : Nat) :
    Nat.dist num (den * roundToQuanta num den) ≤ Nat.dist num (den * k) := by
  rcases spacing_dvd_or_lt hk (num / den) with hdvd | ⟨p, hkp, hp, hdvd⟩
  · exact dist_roundToQuanta_le_of_dvd hden hdvd
  · exact (dist_roundToQuanta_lt hden hkp hp hdvd).le

/-- **If another number of the format is as near**, the rounded one has an even significand. -/
lemma two_mul_spacing_dvd_roundToQuanta (hk : spacing k ∣ k) (hne : k ≠ roundToQuanta num den)
    (h : Nat.dist num (den * k) ≤ Nat.dist num (den * roundToQuanta num den)) :
    2 * spacing (roundToQuanta num den) ∣ roundToQuanta num den := by
  have hdvd : spacing (num / den) ∣ k := by
    rcases spacing_dvd_or_lt hk (num / den) with hdvd | ⟨p, hkp, hp, hdvd⟩
    · exact hdvd
    · exact absurd (dist_roundToQuanta_lt hden hkp hp hdvd) (Nat.not_lt.mpr h)
  obtain ⟨j, rfl⟩ := hdvd
  have heven : 2 ∣ roundQuotient .toEven num (den * spacing (num / den)) := by
    refine two_dvd_roundQuotient (k := j) (Nat.mul_pos hden (spacing_pos _)) (fun hj => ?_) ?_
    · exact hne (by rw [roundToQuanta_eq, ← hj])
    · rwa [roundToQuanta_eq, ← Nat.mul_assoc, ← Nat.mul_assoc] at h
  rcases (roundQuotient_spacing_le hden num).lt_or_eq with hlt | heq
  · refine (Nat.mul_dvd_mul_left 2 (spacing_dvd_of_roundQuotient_lt hlt)).trans ?_
    rw [roundToQuanta_eq, Nat.mul_comm (spacing _)]
    exact Nat.mul_dvd_mul_right heven _
  · rw [roundToQuanta_eq, heq, spacing, spacing, ← pow_add, Nat.log2_two_pow, ← pow_succ']
    exact Nat.pow_dvd_pow 2 (by omega)

end

/-! ### Close quotients -/

/-- Different numbers of the format are at least a spacing of the smaller one apart. -/
lemma add_spacing_le (hm : spacing m ∣ m) (hn : spacing n ∣ n) (h : m < n) :
    m + spacing m ≤ n := by
  obtain ⟨a, ha⟩ := hm
  obtain ⟨b, hb⟩ := (spacing_dvd_spacing h.le).trans hn
  have hab : a < b := by
    rw [ha, hb] at h
    exact Nat.lt_of_mul_lt_mul_left h
  have hmul := Nat.mul_le_mul_left (spacing m) (Nat.succ_le_of_lt hab)
  rw [Nat.mul_succ, ← ha, ← hb] at hmul
  exact hmul

/-- Different numbers of the format differ in their first 54 binary digits. -/
lemma le_mul_dist (hm : spacing m ∣ m) (hn : spacing n ∣ n) (h : m ≠ n) :
    m ≤ 2 ^ 53 * Nat.dist m n := by
  rcases Nat.lt_or_gt_of_ne h with hlt | hgt
  · have hgap := add_spacing_le hm hn hlt
    calc m ≤ 2 ^ 53 * spacing m := (lt_mul_spacing m).le
      _ ≤ 2 ^ 53 * Nat.dist m n := Nat.mul_le_mul_left _ (by rw [Nat.dist]; omega)
  · -- the first number with more digits than `n` is at most `m`, or `m` is not larger
    have hgap := add_spacing_le hn hm hgt
    have hbound := lt_mul_spacing n
    rw [Nat.dist_eq_sub_of_le_right hgt.le]
    obtain ⟨j, hj⟩ := hn
    rcases Nat.le_total m (2 ^ 53 * spacing n) with hle | hge
    · calc m ≤ 2 ^ 53 * spacing n := hle
        _ ≤ 2 ^ 53 * (m - n) := Nat.mul_le_mul_left _ (by omega)
    · have hj' : j + 1 ≤ 2 ^ 53 := by
        refine Nat.lt_of_mul_lt_mul_left (a := spacing n) ?_
        rw [← hj, Nat.mul_comm]
        exact hbound
      have hnext := Nat.mul_le_mul_left (spacing n) hj'
      rw [Nat.mul_succ, ← hj] at hnext
      omega

/-- **A quotient that is close to a number of the format rounds to it**: the difference is less than
one part in `2 ^ 54`. -/
lemma roundToQuanta_eq_of_close (hden : 0 < den) (hk : spacing k ∣ k)
    (h : 2 ^ 54 * Nat.dist num (den * k) < den * k) : roundToQuanta num den = k := by
  by_contra hne
  have hnear := dist_roundToQuanta_le hden hk num
  have htriangle := Nat.dist.triangle_inequality (den * k) num (den * roundToQuanta num den)
  rw [Nat.dist_comm (den * k) num] at htriangle
  have hgap := Nat.mul_le_mul_left den
    (le_mul_dist hk (spacing_dvd_roundToQuanta hden num) (Ne.symm hne))
  rw [Nat.mul_left_comm, ← Nat.dist_mul_left] at hgap
  omega

end Binary64

end TableExplorer
