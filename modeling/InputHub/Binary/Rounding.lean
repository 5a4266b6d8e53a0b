/-!
# Rounding quotients

The whole number nearest to a quotient, with the two rules for a quotient halfway between two whole
numbers.
-/

namespace InputHub.Rounding

/-- The whole number nearest to `a / b`; a half goes to the even neighbour. -/
def halfEven (a b : Nat) : Nat :=
  let q := a / b
  match compare (2 * (a % b)) b with
  | .lt => q
  | .gt => q + 1
  | .eq => if q % 2 = 0 then q else q + 1

/-- The whole number nearest to `a / b`; a half goes up. -/
def halfUp (a b : Nat) : Nat :=
  (2 * a + b) / (2 * b)

end InputHub.Rounding
