/-!
# Decimal numerals

Reading whole numbers from characters: one or more ASCII digits with any number of leading zeros,
optionally signed, and refused when the value does not fit the word it is read into.
-/

namespace InputHub.Numeral

/-- Reads digits onto a number that was read before them. -/
def readOnto (acc : Nat) : List Char → Option Nat
  | [] => some acc
  | c :: cs => if c.isDigit then readOnto (10 * acc + (c.toNat - '0'.toNat)) cs else none

/-- The value of one or more digits. -/
def natural? : List Char → Option Nat
  | [] => none
  | c :: cs => readOnto 0 (c :: cs)

/-- Digits after an optional plus sign. -/
def unsigned? : List Char → Option Nat
  | '+' :: cs => natural? cs
  | cs => natural? cs

/-- Digits after an optional sign. -/
def signed? : List Char → Option Int
  | '-' :: cs => (natural? cs).map fun n => -(n : Int)
  | cs => (unsigned? cs).map Int.ofNat

/-- An unsigned numeral below `2 ^ 32`. -/
def uint32? (cs : List Char) : Option UInt32 :=
  (unsigned? cs).bind fun n => if n < UInt32.size then some (UInt32.ofNat n) else none

/-- A signed numeral from `-2 ^ 31` up to `2 ^ 31 - 1`. -/
def int32? (cs : List Char) : Option Int32 :=
  (signed? cs).bind fun n =>
    if Int32.minValue.toInt ≤ n ∧ n ≤ Int32.maxValue.toInt then some (Int32.ofInt n) else none

/-- The decimal text of a natural number, without sign or leading zeros. -/
def ofNat (n : Nat) : String :=
  String.ofList (Nat.toDigits 10 n)

/-- The decimal text of an integer. -/
def ofInt : Int → String
  | .ofNat n => ofNat n
  | .negSucc n => "-" ++ ofNat (n + 1)

end InputHub.Numeral
