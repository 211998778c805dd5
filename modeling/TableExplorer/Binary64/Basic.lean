/-!
Binary64 numbers, held exactly.  Every finite number of the format is a whole number of *quanta*,
a quantum being its least positive number `2 ^ -1074`; so a finite number is a sign and a natural
number of quanta, and all comparisons are comparisons of integers.

* `Representable`: the numbers of quanta that the format has.
* `Binary64`: the finite numbers, two infinities and one not-a-number.  Zero has two signs.
* `Binary64.compare?`: the order of the numbers, in which nothing compares with not-a-number.
-/

namespace TableExplorer

namespace Binary64

/-- How many quanta make up the number one. -/
def quantaPerUnit : Nat := Nat.pow 2 1074

/-- The first power of two beyond the format, in quanta. -/
def overflow : Nat := Nat.pow 2 2098

/-- The format has a magnitude if it lies below the overflow and has at most 53 leading bits set. -/
def Representable (quanta : Nat) : Prop :=
  quanta < overflow ∧ quanta % Nat.pow 2 (quanta.log2 - 52) = 0

instance : DecidablePred Representable := fun quanta =>
  inferInstanceAs (Decidable (quanta < overflow ∧ quanta % Nat.pow 2 (quanta.log2 - 52) = 0))

/-- The size of a finite number, in quanta. -/
structure Magnitude where
  quanta : Nat
  representable : Representable quanta
  deriving DecidableEq

end Binary64

/-- A number of the binary64 format. -/
inductive Binary64 where
  | finite (negative : Bool) (magnitude : Binary64.Magnitude)
  | infinite (negative : Bool)
  | nan
  deriving DecidableEq

namespace Binary64

/-- The format has the magnitude zero. -/
theorem representable_zero : Representable 0 := by
  decide +kernel

/-- Zero quanta. -/
def Magnitude.zero : Magnitude := ⟨0, representable_zero⟩

/-- The positive zero. -/
def zero : Binary64 := .finite false .zero

instance : Inhabited Binary64 := ⟨zero⟩

/-- The finite number of so many quanta; beyond the format, an infinity. -/
def ofQuanta (negative : Bool) (quanta : Nat) : Binary64 :=
  if h : Representable quanta then .finite negative ⟨quanta, h⟩ else .infinite negative

/-- Neither infinite nor not-a-number. -/
def isFinite : Binary64 → Bool
  | .finite _ _ => true
  | _ => false

/-- The number with the opposite sign. -/
def neg : Binary64 → Binary64
  | .finite negative magnitude => .finite (!negative) magnitude
  | .infinite negative => .infinite (!negative)
  | .nan => .nan

instance : Neg Binary64 := ⟨neg⟩

/-- The number without its sign. -/
def abs : Binary64 → Binary64
  | .finite _ magnitude => .finite false magnitude
  | .infinite _ => .infinite false
  | .nan => .nan

/-- The number counted in quanta.  The infinities stand at the overflow, beyond all others. -/
def scaled? : Binary64 → Option Int
  | .finite negative magnitude =>
    some (if negative then -(magnitude.quanta : Int) else magnitude.quanta)
  | .infinite negative => some (if negative then -(overflow : Int) else overflow)
  | .nan => none

/-- The order of two numbers, in which both zeros are equal; none with not-a-number. -/
def compare? (x y : Binary64) : Option Ordering := do
  return compare (← x.scaled?) (← y.scaled?)

end Binary64

end TableExplorer
