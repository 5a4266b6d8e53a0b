import InputHub.Decimal.Shortest
import InputHub.Text.Numeral

/-!
# Decimal layouts

How the shortest decimal of a number is laid out: with all its zeros, or with an exponent outside a
range. A layout is one record, so that every place that writes numbers states its choices in one
line.
-/

namespace InputHub.Decimal

/-- The choices of a number format. -/
structure Layout where
  /-- Where a number between two shortest decimals goes. -/
  tie : Tie
  /-- The exponents of the leading digit that are written without an exponent part; `none` for
  all. -/
  positional : Option (Int × Int)
  /-- Whether a whole number is written with a point and a zero. -/
  pointZero : Bool

/-- Digits with the decimal point put where `exponent` says. -/
def placePoint (pointZero : Bool) (digits : List Char) (exponent : Int) : List Char :=
  if 0 ≤ exponent then
    digits ++ List.replicate exponent.toNat '0' ++ (if pointZero then ['.', '0'] else [])
  else
    let places := (-exponent).toNat
    if places < digits.length then
      digits.take (digits.length - places) ++ '.' :: digits.drop (digits.length - places)
    else
      ['0', '.'] ++ List.replicate (places - digits.length) '0' ++ digits

/-- Digits with one of them before the point, and an exponent part with its sign. -/
def scientific (digits : List Char) (leading : Int) : List Char :=
  let mantissa := match digits with
    | d :: e :: rest => d :: '.' :: e :: rest
    | _ => digits
  let sign := if leading < 0 then '-' else '+'
  mantissa ++ 'e' :: sign :: (Numeral.ofNat leading.natAbs).toList

/-- The text of a positive number that is not special. -/
def Layout.positive (f : Layout) (x : Binary32) : List Char :=
  let s := shortest f.tie x
  let digits := Nat.toDigits 10 s.digits
  let leading := s.exponent + digits.length - 1
  let fits := match f.positional with
    | none => true
    | some (lo, hi) => lo ≤ leading && leading ≤ hi
  if fits then placePoint f.pointZero digits s.exponent else scientific digits leading

/-- The text of a number that is not special. -/
def Layout.finite (f : Layout) (x : Binary32) : String :=
  let body :=
    if x.isZero then '0' :: (if f.pointZero then ['.', '0'] else [])
    else f.positive ⟨UInt32.ofNat x.magnitude⟩
  String.ofList (if x.isNegative then '-' :: body else body)

end InputHub.Decimal
