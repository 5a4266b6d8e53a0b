import InputHub.Binary.Rounding

/-!
# Binary floating-point formats

A nonnegative binary number is a whole number times a power of two. A format keeps a fixed number of
leading bits, down to a least exponent, and everything from its limit on is too large for it.
`Format.nearest` rounds a quotient to the nearest number of a format, with ties to even.
-/

namespace InputHub

/-- The number `significand * 2 ^ exponent`. -/
structure Dyadic where
  significand : Nat
  exponent : Int
  deriving DecidableEq

namespace Dyadic

/-- The numerator of the number as a quotient. -/
def num (x : Dyadic) : Nat := x.significand <<< x.exponent.toNat

/-- The denominator of the number as a quotient, a power of two. -/
def den (x : Dyadic) : Nat := 1 <<< (-x.exponent).toNat

end Dyadic

/-- How many leading bits a format keeps, its least exponent and the power of two from which numbers
are too large. -/
structure Format where
  precision : Nat
  leastExponent : Int
  limit : Nat

namespace Format

/-- Single precision. -/
def single : Format := ⟨24, -149, 128⟩

/-- Double precision. -/
def double : Format := ⟨53, -1074, 1024⟩

/-- The exponent of the leading bit of `a / b`: the largest `k` with `2 ^ k ≤ a / b`. -/
def leadingBit (a b : Nat) : Int :=
  let k : Int := (Nat.log2 a : Int) - (Nat.log2 b : Int)
  if b <<< k.toNat ≤ a <<< (-k).toNat then k else k - 1

/-- The number of the format nearest to `a / b`, without regard to the format's limit. -/
def nearest (f : Format) (a b : Nat) : Dyadic :=
  if a = 0 then ⟨0, f.leastExponent⟩
  else
    let e := max f.leastExponent (leadingBit a b - (f.precision - 1 : Nat))
    ⟨Rounding.halfEven (a <<< (-e).toNat) (b <<< e.toNat), e⟩

/-- Whether a number is too large for the format. -/
def overflows (f : Format) (x : Dyadic) : Bool :=
  x.den <<< f.limit ≤ x.num

/-- The product of two numbers, rounded. -/
def mul (f : Format) (x y : Dyadic) : Dyadic :=
  f.nearest (x.num * y.num) (x.den * y.den)

/-- The quotient of two numbers, rounded. -/
def div (f : Format) (x y : Dyadic) : Dyadic :=
  f.nearest (x.num * y.den) (x.den * y.num)

end Format

end InputHub
