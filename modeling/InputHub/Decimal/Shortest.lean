import InputHub.Binary.Binary32

/-!
# Shortest decimals

The decimal with the fewest digits that reads back as a given single-precision number, and among
those the one nearest to it. The decimal grids are tried from the coarsest on; the first on which
one of the number's two neighbours rounds to the number wins.
-/

namespace InputHub.Decimal

/-- The number `digits * 10 ^ exponent`. -/
structure Scaled where
  digits : Nat
  exponent : Int
  deriving DecidableEq

/-- Where a number exactly between its two neighbours on a decimal grid goes. -/
inductive Tie where
  | up
  | even
  deriving DecidableEq

/-- The reals that round to one binary number, counted in units of `2 ^ exponent`: from `low` to
`high` around the number `mid`. The ends belong to it when the cell is closed. -/
structure Cell where
  low : Nat
  mid : Nat
  high : Nat
  exponent : Int
  closed : Bool

namespace Cell

/-- The cell of a positive number that is not special, in quarters of its last place. Below a power
of two the numbers are twice as dense, so there the cell reaches down only half as far. -/
def of (x : Binary32) : Cell :=
  let v := x.abs
  let m := v.significand
  let reach := if x.fraction = 0 ∧ 1 < x.biasedExponent then 1 else 2
  ⟨4 * m - reach, 4 * m, 4 * m + 2, v.exponent - 2, m % 2 == 0⟩

/-- What one unit of the cell is worth on the grid of multiples of `10 ^ grid`, as a quotient. -/
def unit (c : Cell) (grid : Int) : Nat × Nat :=
  (Nat.pow 10 (-grid).toNat <<< c.exponent.toNat, Nat.pow 10 grid.toNat <<< (-c.exponent).toNat)

/-- Whether `d * 10 ^ grid` lies in the cell. -/
def holds (c : Cell) (grid : Int) (d : Nat) : Bool :=
  let (num, den) := c.unit grid
  if c.closed then c.low * num ≤ d * den && d * den ≤ c.high * num
  else c.low * num < d * den && d * den < c.high * num

/-- The multiple of `10 ^ grid` in the cell that is nearest to its number, if there is one. -/
def onGrid (c : Cell) (tie : Tie) (grid : Int) : Option Scaled :=
  let (num, den) := c.unit grid
  let below := c.mid * num / den
  let rest := c.mid * num % den
  match c.holds grid below, c.holds grid (below + 1) with
  | false, false => none
  | true, false => some ⟨below, grid⟩
  | false, true => some ⟨below + 1, grid⟩
  | true, true =>
    let goUp :=
      match compare (2 * rest) den with
      | .lt => false
      | .gt => true
      | .eq => match tie with
        | .up => true
        | .even => below % 2 == 1
    some ⟨if goUp then below + 1 else below, grid⟩

end Cell

/-- The decimal exponents of single-precision numbers written with up to nine digits, from the
largest down. -/
def grids : List Int :=
  (List.range 100).map fun (i : Nat) => 39 - (i : Int)

/-- The shortest decimal of a positive number that is not special. -/
def shortest (tie : Tie) (x : Binary32) : Scaled :=
  ((grids.findSome? ((Cell.of x).onGrid tie))).getD ⟨0, 0⟩

end InputHub.Decimal
