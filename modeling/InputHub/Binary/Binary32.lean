import InputHub.Binary.Format

/-!
# Single-precision bit patterns

Axis values, sensor samples and haptic intensities are single-precision numbers. They are kept as
their bit patterns, so that every pattern, NaNs and signed zeros included, is one value.
-/

namespace InputHub

/-- A single-precision number by its bit pattern. -/
structure Binary32 where
  bits : UInt32
  deriving DecidableEq

namespace Binary32

/-- Zero, with the sign bit clear. -/
def zero : Binary32 := ⟨0⟩

/-- The number 1. -/
def one : Binary32 := ⟨0x3F800000⟩

/-- The number 1/2. -/
def half : Binary32 := ⟨0x3F000000⟩

/-- Whether the sign bit is set. -/
def isNegative (x : Binary32) : Bool := 0x80000000 ≤ x.bits.toNat

/-- The bits below the sign. -/
def magnitude (x : Binary32) : Nat := x.bits.toNat % 0x80000000

/-- The biased exponent. -/
def biasedExponent (x : Binary32) : Nat := x.magnitude / 0x800000

/-- The bits below the exponent. -/
def fraction (x : Binary32) : Nat := x.magnitude % 0x800000

/-- Whether the pattern is infinite or not a number. -/
def isSpecial (x : Binary32) : Bool := x.biasedExponent == 255

/-- Whether the pattern is not a number. -/
def isNaN (x : Binary32) : Bool := x.isSpecial && x.fraction != 0

/-- Whether the number is zero, of either sign. -/
def isZero (x : Binary32) : Bool := x.magnitude == 0

/-- The absolute value of a pattern that is not special. -/
def abs (x : Binary32) : Dyadic :=
  if x.biasedExponent = 0 then ⟨x.fraction, -149⟩
  else ⟨0x800000 + x.fraction, (x.biasedExponent : Int) - 150⟩

/-- The pattern of a number of the single-precision format; what is too large becomes infinite. The
leading bit of the significand is counted in the exponent field. -/
def ofDyadic (negative : Bool) (x : Dyadic) : Binary32 :=
  let magnitude :=
    if Format.single.overflows x then 0x7F800000
    else (x.exponent + 149).toNat * 0x800000 + x.significand
  ⟨UInt32.ofNat (if negative then 0x80000000 + magnitude else magnitude)⟩

/-- The number nearest to `± a / b`. -/
def ofQuotient (negative : Bool) (a b : Nat) : Binary32 :=
  ofDyadic negative (Format.single.nearest a b)

end Binary32

end InputHub
