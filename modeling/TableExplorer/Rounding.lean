/-!
Rounding a quotient of natural numbers to a natural number.  `roundQuotient` takes the nearest
natural number and settles a quotient that lies exactly half way by a `Tie`; every rounded number
of the library, binary or decimal, is one call of it.
-/

namespace TableExplorer

/-- Which neighbour an exact half goes to. -/
inductive Tie where
  | toEven
  | awayFromZero
  deriving DecidableEq, Repr

/-- The natural number nearest to `num / den`. -/
def roundQuotient (tie : Tie) (num den : Nat) : Nat :=
  let below := num / den
  match compare (2 * (num % den)) den with
  | .lt => below
  | .gt => below + 1
  | .eq =>
    match tie with
    | .awayFromZero => below + 1
    | .toEven => if below % 2 = 0 then below else below + 1

end TableExplorer
