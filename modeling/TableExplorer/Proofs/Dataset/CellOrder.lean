import Mathlib
import TableExplorer.Dataset.Collation
import TableExplorer.Proofs.Binary64.Grid

/-!
The order of cells.  `Cell.Before` says when one cell stands before another: by their kinds, nothing
before numbers before texts before blobs; numbers, whole or not, by value; texts and blobs by their
bytes, the first difference deciding.  `Cell.compare` decides it, and is transitive, since it
compares the kinds first, then the values, then the bytes.

* `Cell.compare_of_rank_ne`, `Cell.compare_numbers`: the comparison of cells of different kinds, and
  that of numbers.
* `Cell.compare_eq_compareLex`: the comparison as one of three keys.
* `Cell.compare_eq_lt_iff`: **the comparison decides the order**.
* `Cell.Tied`: neither of two cells stands before the other.
* `Collation.Before`, `Collation.Tied`: the same of the keys of cells, by which a collation compares
  them.
-/

namespace TableExplorer

/-- Lists of bytes are ordered by the first difference. -/
lemma compare_bytes_eq_lt_iff {as bs : List UInt8} : compare as bs = .lt ↔ as < bs := by
  rw [List.compare_eq_compareLex]
  induction as generalizing bs with
  | nil =>
      cases bs with
      | nil => simp [List.compareLex_nil_nil]
      | cons y bs => simp [List.compareLex_nil_cons]
  | cons x as ih =>
      cases bs with
      | nil => simp [List.compareLex_cons_nil]
      | cons y bs =>
          rw [List.compareLex_cons_cons, Ordering.then_eq_lt, ih, List.cons_lt_cons_iff,
            Std.compare_eq_lt, Std.LawfulEqCmp.compare_eq_iff_eq]

namespace Cell

/-! ### The order -/

/-- The value of a number, in quanta. -/
def quanta? : Cell → Option Int
  | .integer i => some (integerQuanta i)
  | .real x => some (realQuanta x)
  | _ => none

/-- A cell stands before another: nothing before numbers before texts before blobs, numbers by
value, texts and blobs by their bytes. -/
inductive Before : Cell → Cell → Prop
  | kind {a b : Cell} (h : a.rank < b.rank) : Before a b
  | number {a b : Cell} {m n : Int} (ha : a.quanta? = some m) (hb : b.quanta? = some n)
      (h : m < n) : Before a b
  | text {a b : ByteArray} (h : a.toList < b.toList) : Before (.text a) (.text b)
  | blob {a b : ByteArray} (h : a.toList < b.toList) : Before (.blob a) (.blob b)

/-! ### The comparison -/

/-- Integers in quanta are ordered as the integers. -/
lemma compare_integerQuanta (i j : Int64) :
    Ord.compare (integerQuanta i) (integerQuanta j) = Ord.compare i.toInt j.toInt := by
  have hpos : (0 : Int) < Binary64.quantaPerUnit := Int.natCast_pos.mpr Binary64.quantaPerUnit_pos
  rw [integerQuanta, integerQuanta]
  generalize (Binary64.quantaPerUnit : Int) = q at hpos
  simp only [compareOfLessAndEq, Ord.compare, Int.mul_lt_mul_right hpos,
    Int.mul_eq_mul_right_iff hpos.ne']

/-- Cells of different kinds are compared by their kinds. -/
lemma compare_of_rank_ne {a b : Cell} (h : a.rank ≠ b.rank) :
    compare a b = Ord.compare a.rank b.rank := by
  cases a <;> cases b <;> first | rfl | exact absurd rfl h

/-- Numbers are compared by value. -/
lemma compare_numbers {a b : Cell} {m n : Int} (ha : a.quanta? = some m) (hb : b.quanta? = some n) :
    compare a b = Ord.compare m n := by
  cases a <;> cases b <;> cases ha <;> cases hb
  · exact (compare_integerQuanta _ _).symm
  · rfl
  · rfl
  · rfl

/-- Cells of one kind are both nothing, numbers, texts or blobs. -/
lemma same_kind {a b : Cell} (h : a.rank = b.rank) :
    (a = .null ∧ b = .null) ∨ (∃ m n, a.quanta? = some m ∧ b.quanta? = some n) ∨
      (∃ s t, a = .text s ∧ b = .text t) ∨ ∃ s t, a = .blob s ∧ b = .blob t := by
  cases a <;> cases b <;> simp [rank, quanta?] at h ⊢

/-- The bytes of a text or a blob. -/
def bytes : Cell → List UInt8
  | .text bytes => bytes.toList
  | .blob bytes => bytes.toList
  | _ => []

/-- A number has no bytes. -/
lemma bytes_of_quanta? {a : Cell} {m : Int} (h : a.quanta? = some m) : a.bytes = [] := by
  cases a with
  | integer i => rfl
  | real x => rfl
  | _ => cases h

/-- The comparison of cells compares their kinds, their values and their bytes. -/
lemma compare_eq_compareLex :
    compare = compareLex (compareOn rank)
      (compareLex (compareOn fun cell => cell.quanta?.getD 0) (compareOn bytes)) := by
  funext a b
  rw [compareLex, compareLex, compareOn, compareOn, compareOn]
  by_cases hrank : a.rank = b.rank
  · rw [hrank, Std.compare_self, Ordering.eq_then]
    rcases same_kind hrank with ⟨rfl, rfl⟩ | ⟨m, n, ha, hb⟩ | ⟨s, t, rfl, rfl⟩ | ⟨s, t, rfl, rfl⟩
    · rfl
    · rw [compare_numbers ha hb, ha, hb, bytes_of_quanta? ha, bytes_of_quanta? hb,
        Std.compare_self, Ordering.then_eq]
      rfl
    · rfl
    · rfl
  · rw [compare_of_rank_ne hrank]
    rcases Nat.lt_or_gt_of_ne hrank with h | h
    · rw [Nat.compare_eq_lt.mpr h, Ordering.lt_then]
    · rw [Nat.compare_eq_gt.mpr h, Ordering.gt_then]

instance : Std.TransCmp compare := by
  rw [compare_eq_compareLex]
  infer_instance

/-- **The comparison decides the order.** -/
lemma compare_eq_lt_iff {a b : Cell} : compare a b = .lt ↔ Before a b := by
  constructor
  · intro h
    by_cases hrank : a.rank = b.rank
    · rcases same_kind hrank with ⟨rfl, rfl⟩ | ⟨m, n, ha, hb⟩ | ⟨s, t, rfl, rfl⟩ | ⟨s, t, rfl, rfl⟩
      · cases h
      · rw [compare_numbers ha hb, Int.compare_eq_lt] at h
        exact Before.number ha hb h
      · exact Before.text (compare_bytes_eq_lt_iff.mp h)
      · exact Before.blob (compare_bytes_eq_lt_iff.mp h)
    · rw [compare_of_rank_ne hrank, Nat.compare_eq_lt] at h
      exact Before.kind h
  · intro h
    cases h with
    | kind h => rw [compare_of_rank_ne h.ne, Nat.compare_eq_lt.mpr h]
    | number ha hb h => rw [compare_numbers ha hb, Int.compare_eq_lt.mpr h]
    | text h => exact compare_bytes_eq_lt_iff.mpr h
    | blob h => exact compare_bytes_eq_lt_iff.mpr h

/-- Neither of two cells stands before the other. -/
def Tied (a b : Cell) : Prop := ¬Before a b ∧ ¬Before b a

/-- The comparison decides ties. -/
lemma compare_eq_eq_iff {a b : Cell} : compare a b = .eq ↔ Tied a b := by
  have hswap : compare b a = .lt ↔ compare a b = .gt := Std.OrientedCmp.gt_iff_lt.symm
  rw [Tied, ← compare_eq_lt_iff, ← compare_eq_lt_iff, hswap]
  cases compare a b <;> simp

/-- No cell stands before itself. -/
lemma Tied.refl (a : Cell) : Tied a a := compare_eq_eq_iff.mp Std.ReflCmp.compare_self

instance : DecidableRel Tied := fun _ _ => decidable_of_iff _ compare_eq_eq_iff

end Cell

/-! ### Collations -/

namespace Collation

variable {c : Collation} {a b : Cell}

/-- A cell stands before another under a collation. -/
def Before (c : Collation) (a b : Cell) : Prop := Cell.Before (c.key a) (c.key b)

/-- A collation does not tell two cells apart. -/
def Tied (c : Collation) (a b : Cell) : Prop := Cell.Tied (c.key a) (c.key b)

instance (c : Collation) : DecidableRel c.Tied := fun _ _ =>
  inferInstanceAs (Decidable (Cell.Tied ..))

/-- A collation compares texts only: what is no text is compared by itself. -/
lemma key_of_rank_ne (h : a.rank ≠ 2) : c.key a = a := by
  cases a with
  | text bytes => exact absurd rfl h
  | _ => cases c <;> rfl

/-- A collation does not change the kinds of cells. -/
@[simp] lemma rank_key (c : Collation) (cell : Cell) : (c.key cell).rank = cell.rank := by
  cases c <;> cases cell <;> rfl

/-- A collation does not tell a cell from itself. -/
lemma Tied.refl (c : Collation) (a : Cell) : c.Tied a a := Cell.Tied.refl _

end Collation

end TableExplorer
