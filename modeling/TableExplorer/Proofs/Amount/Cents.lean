import TableExplorer.Proofs.Amount.RoundTrip
import TableExplorer.Proofs.Dataset.CellOrder
import TableExplorer.Proofs.Numeral.ReadBack
import TableExplorer.Proofs.Numeral.Thousandths

/-!
Amounts rounded to cents.  A number that is rounded to two decimals is the number nearest to its own
hundredths: below `2 ^ 46` the numbers of the format lie closer together than hundredths do, so the
hundredths that were rounded to are found again; from there on they lie farther apart, so there is
only one number near its hundredths.  Hence the text of such a number is read as that number, and
different ones have different texts.

* `hundredths_roundToQuanta`: **small hundredths are found again** in the number nearest to them.
* `roundToQuanta_hundredths`: **a large number is found again** in its hundredths.
* `Binary64.ofRatio_hundredths`: a number rounded to cents is nearest to its hundredths.
* `Amount.tied_of_writeLocale_eq`: **different amounts have different texts**.
-/

namespace TableExplorer

namespace Binary64

variable {n : Nat} {negative : Bool} {m : Magnitude} {x : Binary64}

/-- From here on, the numbers of the format are farther apart than hundredths. -/
def coarseFrom : Nat := 2 ^ 46

/-- From a power of two of quanta on, the numbers of the format are farther apart than hundredths;
one is a smaller power of two. -/
lemma exists_coarseFrom_eq :
    ∃ e, quantaPerUnit = 2 ^ (e + 7) ∧ coarseFrom * quantaPerUnit = 2 ^ (53 + e) := by
  obtain ⟨e, he⟩ := exists_quantaPerUnit_eq (k := 7) (by decide)
  have hexponent : 46 + (e + 7) = 53 + e := by omega
  exact ⟨e, he, by rw [he, coarseFrom, ← pow_add, hexponent]⟩

/-- **Small hundredths are found again** in the number nearest to them. -/
lemma hundredths_roundToQuanta (tie : Tie) (h : n < 100 * coarseFrom) :
    roundQuotient tie (roundToQuanta (n * quantaPerUnit) 100 * 100) quantaPerUnit = n := by
  obtain ⟨e, he, hcoarse⟩ := exists_coarseFrom_eq
  have hquotient : n * quantaPerUnit / 100 < 2 ^ (53 + e) := by
    refine Nat.div_lt_of_lt_mul ?_
    calc n * quantaPerUnit < 100 * coarseFrom * quantaPerUnit :=
          Nat.mul_lt_mul_of_pos_right h quantaPerUnit_pos
      _ = 100 * 2 ^ (53 + e) := by rw [Nat.mul_assoc, hcoarse]
  -- near the hundredths, the numbers of the format are at most a 128th apart
  have hspacing : 2 ^ 7 * spacing (n * quantaPerUnit / 100) ≤ quantaPerUnit := by
    have hle := Nat.le_of_dvd (Nat.two_pow_pos e) (spacing_dvd_of_lt hquotient)
    calc 2 ^ 7 * spacing (n * quantaPerUnit / 100) ≤ 2 ^ 7 * 2 ^ e := Nat.mul_le_mul_left _ hle
      _ = quantaPerUnit := by rw [he, pow_add, Nat.mul_comm]
  have hnear : 2 * Nat.dist (n * quantaPerUnit) (100 * roundToQuanta (n * quantaPerUnit) 100) ≤
      100 * spacing (n * quantaPerUnit / 100) := by
    rw [roundToQuanta_eq, ← Nat.mul_assoc]
    exact two_mul_dist_roundQuotient_le (Nat.mul_pos (by decide) (spacing_pos _))
  have hpos := spacing_pos (n * quantaPerUnit / 100)
  refine roundQuotient_eq_of_dist_lt quantaPerUnit_pos ?_
  rw [Nat.mul_comm _ 100, Nat.mul_comm quantaPerUnit n, Nat.dist_comm]
  omega

/-- Numbers of the format that are large lie on the grid of 64ths. -/
lemma two_pow_dvd_of_le {e k : Nat} (hcoarse : coarseFrom * quantaPerUnit = 2 ^ (53 + e))
    (hk : spacing k ∣ k) (h : coarseFrom * quantaPerUnit ≤ k) : 2 ^ (e + 1) ∣ k := by
  have hgrid : spacing (2 ^ (53 + e)) = 2 ^ (e + 1) := by
    have hexponent : 53 + e - 52 = e + 1 := by omega
    rw [spacing, Nat.log2_two_pow, hexponent]
  rw [← hgrid]
  exact (spacing_dvd_spacing (hcoarse ▸ h)).trans hk

/-- **A large number is found again** in its hundredths. -/
lemma roundToQuanta_hundredths {k : Nat} (hk : spacing k ∣ k)
    (h : coarseFrom * quantaPerUnit ≤ k) :
    roundToQuanta (roundQuotient .toEven (k * 100) quantaPerUnit * quantaPerUnit) 100 = k := by
  obtain ⟨e, he, hcoarse⟩ := exists_coarseFrom_eq
  have hhundredths : 100 * coarseFrom ≤ roundQuotient .toEven (k * 100) quantaPerUnit := by
    refine le_roundQuotient quantaPerUnit_pos ?_
    calc quantaPerUnit * (100 * coarseFrom) = coarseFrom * quantaPerUnit * 100 := by ring
      _ ≤ k * 100 := Nat.mul_le_mul_right 100 h
  have hnear : 2 * Nat.dist (k * 100)
      (quantaPerUnit * roundQuotient .toEven (k * 100) quantaPerUnit) ≤ quantaPerUnit :=
    two_mul_dist_roundQuotient_le quantaPerUnit_pos
  generalize roundQuotient .toEven (k * 100) quantaPerUnit = n at hhundredths hnear ⊢
  have hlarge : coarseFrom * quantaPerUnit ≤ roundToQuanta (n * quantaPerUnit) 100 := by
    refine le_roundToQuanta (by decide) ?_ ?_
    · rw [hcoarse]
      exact spacing_two_pow_dvd _
    · calc 100 * (coarseFrom * quantaPerUnit) = 100 * coarseFrom * quantaPerUnit := by ring
        _ ≤ n * quantaPerUnit := Nat.mul_le_mul_right _ hhundredths
  have hgrid := spacing_dvd_roundToQuanta (by decide : 0 < 100) (n * quantaPerUnit)
  have hrounded := dist_roundToQuanta_le (by decide : 0 < 100) hk (n * quantaPerUnit)
  generalize roundToQuanta (n * quantaPerUnit) 100 = j at hlarge hgrid hrounded ⊢
  -- both numbers are near the hundredths, and both lie on a grid that is wider
  obtain ⟨a, rfl⟩ := two_pow_dvd_of_le hcoarse hk h
  obtain ⟨b, rfl⟩ := two_pow_dvd_of_le hcoarse hgrid hlarge
  by_contra hne
  have htriangle := Nat.dist.triangle_inequality (100 * (2 ^ (e + 1) * b)) (n * quantaPerUnit)
    (100 * (2 ^ (e + 1) * a))
  rw [Nat.dist_comm (100 * _) (n * _), Nat.dist_mul_left, Nat.dist_mul_left] at htriangle
  have hapart : 1 ≤ Nat.dist b a := Nat.dist_pos_of_ne fun hba => hne (by rw [hba])
  have hstep := Nat.mul_le_mul_left (100 * 2 ^ (e + 1)) hapart
  rw [Nat.mul_comm _ 100, Nat.mul_comm quantaPerUnit n, Nat.dist_comm] at hnear
  have hunit : quantaPerUnit = 64 * 2 ^ (e + 1) := by
    rw [he, pow_add, pow_add]
    ring
  have hgridpos := Nat.two_pow_pos (e + 1)
  rw [← Nat.mul_assoc] at htriangle
  omega

/-- A number rounded to cents is the one nearest to its own hundredths. -/
lemma ofRatio_hundredths (h : x.roundedToCents = .finite negative m) :
    ofRatio negative (m.hundredths .toEven) 100 = .finite negative m := by
  have hlarge : coarseFrom * quantaPerUnit ≤ m.quanta →
      ofRatio negative (m.hundredths .toEven) 100 = .finite negative m := fun hle =>
    ofRatio_eq_finite_iff.mpr
      ⟨rfl, roundToQuanta_hundredths (representable_iff.mp m.representable).2 hle⟩
  cases x with
  | infinite b => cases h
  | nan => cases h
  | finite b k =>
      rw [roundedToCents] at h
      split_ifs at h with hwhole
      · obtain ⟨-, rfl⟩ := finite.inj h
        refine hlarge (le_trans ?_ hwhole.le)
        exact Nat.mul_le_mul_right _ (by decide)
      · obtain ⟨-, hm⟩ := ofRatio_eq_finite_iff.mp h
        rcases Nat.lt_or_ge (k.hundredths .awayFromZero) (100 * coarseFrom) with hlt | hge
        · refine ofRatio_eq_finite_iff.mpr ⟨rfl, ?_⟩
          rw [Magnitude.hundredths, ← hm, hundredths_roundToQuanta .toEven hlt]
        · refine hlarge (hm ▸ le_roundToQuanta (by decide) ?_ ?_)
          · obtain ⟨e, -, hcoarse⟩ := exists_coarseFrom_eq
            rw [hcoarse]
            exact spacing_two_pow_dvd _
          · rw [← Nat.mul_assoc]
            exact Nat.mul_le_mul_right _ hge

end Binary64

namespace Amount

open Binary64 (IsNearest)

variable {x y : Binary64}

/-- **The text of an amount rounded to cents is read as that amount.** -/
lemma readLocale?_writeLocale_roundedToCents (h : x.roundedToCents.isFinite = true) :
    ∃ z, readLocale? (writeLocale x.roundedToCents) = some z ∧
      z.compare? x.roundedToCents = some .eq := by
  obtain ⟨negative, m, hx⟩ := Binary64.exists_of_isFinite h
  have hdecimal : Decimal.toBinary64 ⟨negative, m.hundredths .toEven, -2⟩ = .finite negative m := by
    have hnumerator : ∀ n, Decimal.numerator ⟨negative, n, -2⟩ = n := Nat.mul_one
    have hdenominator : ∀ n, Decimal.denominator ⟨negative, n, -2⟩ = 100 := fun _ => rfl
    rw [Decimal.toBinary64_eq_ofRatio, hnumerator, hdenominator, Binary64.ofRatio_hundredths hx]
  have hnearest : IsNearest (Decimal.value ⟨negative, m.hundredths .toEven, -2⟩)
      (.finite negative m) := by
    rw [← hdecimal]
    exact Decimal.isNearest_toBinary64 (by rw [hdecimal]; rfl)
  have htext : Decimal.ofChars? (Binary64.twoPlaces (.finite negative m)).toList =
      some ⟨negative, m.hundredths .toEven, -2⟩ := by
    rw [Binary64.twoPlaces, String.toList_append, Binary64.ofChars?_twoPlaces]
  rw [hx]
  exact (isRoundTrip_finite negative m).identity _ htext hnearest

/-- A number that is not finite is written as itself. -/
lemma writeLocale_of_not_isFinite (h : ¬x.isFinite = true) : writeLocale x = x.toText := by
  cases x with
  | finite negative m => exact absurd rfl h
  | infinite negative => rfl
  | nan => rfl

/-- A number that is not finite is not written as a finite one. -/
lemma isFinite_of_writeLocale_eq (hx : x.isFinite = true) (h : writeLocale x = writeLocale y) :
    y.isFinite = true := by
  obtain ⟨negative, m, rfl⟩ := Binary64.exists_of_isFinite hx
  have heuro := (isRoundTrip_finite negative m).isEuro
  rw [h] at heuro
  cases y with
  | finite b k => rfl
  | infinite b => cases b <;> exact absurd heuro (by decide)
  | nan => exact absurd heuro (by decide)

/-- Numbers that are compared as equal are the same in quanta. -/
lemma scaled?_eq_of_compare? (h : x.compare? y = some .eq) : x.scaled? = y.scaled? := by
  obtain ⟨m, hm, h⟩ := Option.bind_eq_some_iff.mp h
  obtain ⟨n, hn, h⟩ := Option.bind_eq_some_iff.mp h
  rw [hm, hn, Std.LawfulEqCmp.eq_of_compare (Option.some.inj h)]

/-- Numbers that are the same in quanta are tied. -/
lemma tied_of_scaled?_eq (h : x.scaled? = y.scaled?) : Cell.Tied (.real x) (.real y) := by
  refine Cell.compare_eq_eq_iff.mp ?_
  rw [Cell.compare, Cell.realQuanta, Cell.realQuanta, h]
  exact Std.ReflCmp.compare_self

/-- **Different amounts have different texts**: amounts rounded to cents that are written alike are
tied. -/
lemma tied_of_writeLocale_eq
    (h : writeLocale x.roundedToCents = writeLocale y.roundedToCents) :
    Cell.Tied (.real x.roundedToCents) (.real y.roundedToCents) := by
  by_cases hx : x.roundedToCents.isFinite = true
  · have hy := isFinite_of_writeLocale_eq hx h
    obtain ⟨z, hz, hzx⟩ := readLocale?_writeLocale_roundedToCents hx
    obtain ⟨z', hz', hzy⟩ := readLocale?_writeLocale_roundedToCents hy
    rw [h, hz', Option.some_inj] at hz
    subst hz
    exact tied_of_scaled?_eq
      ((scaled?_eq_of_compare? hzx).symm.trans (scaled?_eq_of_compare? hzy))
  · have hy : ¬y.roundedToCents.isFinite = true := fun hy =>
      hx (isFinite_of_writeLocale_eq hy h.symm)
    rw [writeLocale_of_not_isFinite hx, writeLocale_of_not_isFinite hy] at h
    rw [Binary64.toText_injective h]
    exact Cell.Tied.refl _

end Amount

end TableExplorer
