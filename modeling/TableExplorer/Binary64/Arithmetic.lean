import TableExplorer.Binary64.Rounding

/-!
Arithmetic on binary64 numbers: each operation is its exact result, rounded once.

* `add`, `sub`: a sum of zeros is negative only if both are; opposite infinities have no sum.
* `mul`, `div`: the sign is that of the factors; zero times infinity has no value.
-/

namespace TableExplorer.Binary64

/-- The signed number of quanta of a finite number. -/
def signedQuanta (negative : Bool) (magnitude : Magnitude) : Int :=
  if negative then -(magnitude.quanta : Int) else magnitude.quanta

/-- The sum, rounded once. -/
def add : Binary64 → Binary64 → Binary64
  | .nan, _ => .nan
  | _, .nan => .nan
  | .infinite a, .infinite b => if a = b then .infinite a else .nan
  | .infinite a, .finite _ _ => .infinite a
  | .finite _ _, .infinite b => .infinite b
  | .finite a x, .finite b y =>
    let total := signedQuanta a x + signedQuanta b y
    if total = 0 then .finite (a && b) .zero
    else ofQuanta (decide (total < 0)) (roundToQuanta total.natAbs 1)

/-- The difference, rounded once. -/
def sub (x y : Binary64) : Binary64 := add x (-y)

/-- The product, rounded once. -/
def mul : Binary64 → Binary64 → Binary64
  | .nan, _ => .nan
  | _, .nan => .nan
  | .infinite a, .infinite b => .infinite (a ^^ b)
  | .infinite a, .finite b y => if y.quanta = 0 then .nan else .infinite (a ^^ b)
  | .finite a x, .infinite b => if x.quanta = 0 then .nan else .infinite (a ^^ b)
  | .finite a x, .finite b y =>
    ofQuanta (a ^^ b) (roundToQuanta (x.quanta * y.quanta) quantaPerUnit)

/-- The quotient, rounded once. -/
def div : Binary64 → Binary64 → Binary64
  | .nan, _ => .nan
  | _, .nan => .nan
  | .infinite _, .infinite _ => .nan
  | .infinite a, .finite b _ => .infinite (a ^^ b)
  | .finite a _, .infinite b => .finite (a ^^ b) .zero
  | .finite a x, .finite b y =>
    if y.quanta = 0 then if x.quanta = 0 then .nan else .infinite (a ^^ b)
    else ofQuanta (a ^^ b) (roundToQuanta (x.quanta * quantaPerUnit) y.quanta)

instance : Add Binary64 := ⟨add⟩
instance : Sub Binary64 := ⟨sub⟩
instance : Mul Binary64 := ⟨mul⟩
instance : Div Binary64 := ⟨div⟩
instance : Zero Binary64 := ⟨zero⟩

end TableExplorer.Binary64
