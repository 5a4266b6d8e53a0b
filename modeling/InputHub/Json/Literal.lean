import InputHub.Binary.Binary32
import InputHub.Decimal.Layout

/-!
# JSON number literals

The grammar of numbers, the whole numbers among them, and the single-precision number that a literal
stands for.
-/

namespace InputHub.Json

/-- A number literal in its parts. -/
structure Literal where
  negative : Bool
  whole : List Char
  fraction : Option (List Char)
  /-- The exponent part: whether it is negative, and its digits. -/
  exponent : Option (Bool × List Char)
  deriving DecidableEq

namespace Literal

/-- The digits at the front, and what follows them. -/
def digits (cs : List Char) : List Char × List Char :=
  (cs.takeWhile Char.isDigit, cs.dropWhile Char.isDigit)

/-- The sign at the front of an exponent. -/
def sign : List Char → Bool × List Char
  | '+' :: cs => (false, cs)
  | '-' :: cs => (true, cs)
  | cs => (false, cs)

/-- Reads an exponent part up to the end of the literal. -/
def readExponent? : List Char → Option (Option (Bool × List Char))
  | [] => some none
  | c :: cs =>
    if c = 'e' ∨ c = 'E' then
      let (negative, cs) := sign cs
      let (ds, rest) := digits cs
      if ds.isEmpty ∨ ¬ rest.isEmpty then none else some (some (negative, ds))
    else none

/-- Reads what follows the whole part. -/
def readTail? : List Char → Option (Option (List Char) × Option (Bool × List Char))
  | '.' :: cs =>
    let (ds, rest) := digits cs
    if ds.isEmpty then none else (readExponent? rest).map fun e => (some ds, e)
  | cs => (readExponent? cs).map fun e => (none, e)

/-- Reads a literal without its sign. The whole part has no needless leading zero. -/
def readUnsigned? (negative : Bool) (cs : List Char) : Option Literal :=
  let (ds, rest) := digits cs
  if ds.isEmpty ∨ (ds.head? = some '0' ∧ ds.length ≠ 1) then none
  else (readTail? rest).map fun (fraction, exponent) => ⟨negative, ds, fraction, exponent⟩

/-- Reads a literal. -/
def read? : List Char → Option Literal
  | '-' :: cs => readUnsigned? true cs
  | cs => readUnsigned? false cs

/-- The value of digits, read onto a number before them. -/
def value (acc : Nat) (ds : List Char) : Nat :=
  ds.foldl (fun n c => 10 * n + (c.toNat - '0'.toNat)) acc

/-- The whole number that a literal without fraction and exponent stands for. A negative zero is
none. -/
def toInt? (l : Literal) : Option Int :=
  match l.fraction, l.exponent with
  | none, none =>
    let n := value 0 l.whole
    if l.negative then (if n = 0 then none else some (-(n : Int))) else some n
  | _, _ => none

/-- Reads digits onto a number while it fits into 64 bits; what is left over is handed back. -/
def fill (acc : Nat) : List Char → Nat × List Char
  | [] => (acc, [])
  | c :: cs =>
    let n := 10 * acc + (c.toNat - '0'.toNat)
    if n < UInt64.size then fill n cs else (acc, c :: cs)

/-- A power of ten in double precision. -/
def powerOfTen (n : Nat) : Dyadic := Format.double.nearest (Nat.pow 10 n) 1

/-- The largest power of ten that double precision holds. -/
def largestPower : Nat := 308

/-- Divides by a power of ten in double precision, in steps of the largest power. -/
def scaleDown (x : Dyadic) (n : Nat) : Dyadic :=
  if n ≤ largestPower ∨ x.significand = 0 then
    if x.significand = 0 then x else Format.double.div x (powerOfTen n)
  else scaleDown (Format.double.div x (powerOfTen largestPower)) (n - largestPower)
termination_by n
decreasing_by
  simp only [largestPower] at *
  omega

/-- The number `significand * 10 ^ exponent` in double precision, if it is not too large. -/
def scale? (significand : Nat) (exponent : Int) : Option Dyadic :=
  let x := Format.double.nearest significand 1
  if exponent < 0 then some (scaleDown x exponent.natAbs)
  else if exponent.toNat ≤ largestPower then
    let y := Format.double.mul x (powerOfTen exponent.toNat)
    if Format.double.overflows y then none else some y
  else if significand = 0 then some x
  else none

/-- The single-precision number of a literal. Whole numbers within 64 bits are rounded once.
Everything else is a significand of at most 64 bits that is scaled in double precision and then
rounded to single precision; a literal too large for double precision has no value. -/
def toBinary32? (l : Literal) : Option Binary32 :=
  let (whole, spilled) := fill 0 l.whole
  match l.fraction, l.exponent, spilled with
  | none, none, [] =>
    if l.negative ∧ (whole = 0 ∨ 0x8000000000000000 < whole) then
      some (narrow (Format.double.nearest whole 1))
    else some (Binary32.ofQuotient l.negative whole 1)
  | fraction, exponent, _ =>
    let places := fraction.getD []
    let (significand, unread) := fill whole places
    let shift : Int := (spilled.length : Int) - ((places.length - unread.length : Nat) : Int)
    match exponent with
    | none => (scale? significand shift).map narrow
    | some (negative, ds) =>
      let e := value 0 ds
      if 0x80000000 ≤ e then
        if significand = 0 ∨ negative then some (narrow ⟨0, 0⟩) else none
      else (scale? significand (shift + if negative then -(e : Int) else e)).map narrow
where
  /-- A double-precision number in single precision. -/
  narrow (x : Dyadic) : Binary32 := Binary32.ofQuotient l.negative x.num x.den

/-- Numbers in JSON are written out with a point from `10 ^ -6` up to `10 ^ 13`, with an exponent
beyond, and a tie goes to the even digit. -/
def layout : Decimal.Layout := ⟨.even, some (-6, 12), true⟩

end Literal

end InputHub.Json
