import Mathlib.Algebra.Order.Field.Basic
import Mathlib.Algebra.Order.Monoid.Unbundled.WithTop
import Mathlib.Algebra.Order.Ring.Rat
import Mathlib.Data.Rat.Cast.Order
import Mathlib.Tactic.NormNum
import Mathlib.Tactic.Positivity
import InputHub.Binary.Binary32

/-!
# Values of bit patterns

A single-precision pattern stands for a rational number, for one of the two infinities or, if it is
not a number, for nothing. Among numbers of one sign the order of the values is that of the bits
below the sign:

* `Binary32.units_le_iff`: counted in units of the least positive number, values are in the order of
  their bits;
* `Binary32.value_le_zero_iff`: the values up to zero are those with the sign, and both zeros;
* `Binary32.value_le_one_iff`: a number without the sign is at most one exactly if its bits are at
  most those of one.
-/

namespace InputHub

/-- The number as a quotient. -/
def Dyadic.toRat (x : Dyadic) : ℚ := x.significand * 2 ^ x.exponent

namespace Binary32

variable {x y : Binary32}

/-- How often the least positive number goes into the absolute value. -/
def units (x : Binary32) : Nat :=
  if x.biasedExponent = 0 then x.fraction else (0x800000 + x.fraction) * 2 ^ (x.biasedExponent - 1)

theorem toRat_abs (x : Binary32) : x.abs.toRat = x.units * 2 ^ (-149 : Int) := by
  rw [abs, units]
  split
  · rfl
  · rename_i hnormal
    have hexp : (x.biasedExponent : Int) - 150 = (x.biasedExponent - 1 : Nat) + (-149) := by omega
    rw [Dyadic.toRat, hexp, zpow_add₀ (by norm_num), zpow_natCast]
    push_cast
    rw [mul_assoc]

theorem fraction_lt (x : Binary32) : x.fraction < 0x800000 := Nat.mod_lt _ (by decide)

theorem magnitude_eq (x : Binary32) : x.magnitude = 0x800000 * x.biasedExponent + x.fraction :=
  (Nat.div_add_mod ..).symm

theorem units_lt (x : Binary32) : x.units < 0x800000 * 2 ^ x.biasedExponent := by
  have hfraction := x.fraction_lt
  rw [units]
  split
  · rename_i hzero
    simpa [hzero] using hfraction
  · rename_i hnormal
    obtain ⟨k, hk⟩ := Nat.exists_eq_succ_of_ne_zero hnormal
    rw [hk, Nat.succ_sub_one, Nat.pow_succ, Nat.mul_comm (2 ^ k), ← Nat.mul_assoc]
    exact Nat.mul_lt_mul_of_pos_right (by omega) (Nat.two_pow_pos k)

theorem le_units (h : x.biasedExponent ≠ 0) :
    0x800000 * 2 ^ (x.biasedExponent - 1) ≤ x.units := by
  rw [units, if_neg h]
  exact Nat.mul_le_mul_right _ (Nat.le_add_right ..)

theorem units_lt_units (h : x.magnitude < y.magnitude) : x.units < y.units := by
  rw [magnitude_eq, magnitude_eq] at h
  have hx := x.fraction_lt
  have hy := y.fraction_lt
  rcases Nat.lt_trichotomy x.biasedExponent y.biasedExponent with hexp | hexp | hexp
  · calc
      x.units < 0x800000 * 2 ^ x.biasedExponent := x.units_lt
      _ ≤ 0x800000 * 2 ^ (y.biasedExponent - 1) :=
        Nat.mul_le_mul_left _ (Nat.pow_le_pow_right (by decide) (by omega))
      _ ≤ y.units := le_units (by omega)
  · have hfraction : x.fraction < y.fraction := by omega
    rw [units, units, hexp]
    split
    · exact hfraction
    · exact Nat.mul_lt_mul_of_pos_right (by omega) (Nat.two_pow_pos _)
  · omega

theorem units_le_iff : x.units ≤ y.units ↔ x.magnitude ≤ y.magnitude := by
  constructor
  · intro h
    by_contra hlt
    exact absurd (units_lt_units (Nat.not_le.1 hlt)) (Nat.not_lt.2 h)
  · intro h
    rcases Nat.lt_or_eq_of_le h with hlt | heq
    · exact Nat.le_of_lt (units_lt_units hlt)
    · rw [units, units, biasedExponent, biasedExponent, fraction, fraction, heq]

theorem toRat_abs_le_iff : x.abs.toRat ≤ y.abs.toRat ↔ x.magnitude ≤ y.magnitude := by
  rw [toRat_abs, toRat_abs, mul_le_mul_iff_left₀ (by positivity), Nat.cast_le, units_le_iff]

theorem toRat_abs_nonneg (x : Binary32) : 0 ≤ x.abs.toRat := by
  rw [toRat_abs]
  positivity

theorem units_eq_zero_iff : x.units = 0 ↔ x.isZero := by
  have hzero : zero.units = 0 := by decide
  have hmagnitude : zero.magnitude = 0 := by decide
  rw [← Nat.le_zero, ← hzero, units_le_iff, hmagnitude, Nat.le_zero, isZero, beq_iff_eq]

theorem toRat_abs_pos_iff : 0 < x.abs.toRat ↔ x.isZero = false := by
  rw [toRat_abs, mul_pos_iff_of_pos_right (by positivity), Nat.cast_pos, Nat.pos_iff_ne_zero, Ne,
    units_eq_zero_iff, Bool.not_eq_true]

theorem toRat_abs_one : one.abs.toRat = 1 := by
  have hunits : one.units = 2 ^ 149 := by decide
  rw [toRat_abs, hunits]
  norm_num

theorem toRat_abs_half : half.abs.toRat = 1 / 2 := by
  have hunits : half.units = 2 ^ 148 := by decide
  rw [toRat_abs, hunits]
  norm_num

/-! ## Values -/

/-- A rational number among the values. -/
def finite (q : ℚ) : WithBot (WithTop ℚ) := (q : WithTop ℚ)

/-- What a pattern stands for; nothing if it is not a number. -/
def value? (x : Binary32) : Option (WithBot (WithTop ℚ)) :=
  if x.isNaN then none
  else if x.isSpecial then some (if x.isNegative then ⊥ else ⊤)
  else some (finite (if x.isNegative then -x.abs.toRat else x.abs.toRat))

variable {q : WithBot (WithTop ℚ)}

theorem finite_le_finite_iff {a b : ℚ} : finite a ≤ finite b ↔ a ≤ b :=
  WithBot.coe_le_coe.trans WithTop.coe_le_coe

theorem finite_lt_top (a : ℚ) : finite a < ⊤ :=
  WithBot.coe_lt_coe.2 (WithTop.coe_lt_top a)

theorem value?_eq_none_iff : x.value? = none ↔ x.isNaN := by
  rw [value?]
  split
  · simp [*]
  · split <;> simp [*]

theorem value_cases (h : x.value? = some q) :
    (x.isSpecial ∧ q = if x.isNegative then ⊥ else ⊤) ∨
      q = finite (if x.isNegative then -x.abs.toRat else x.abs.toRat) := by
  rw [value?] at h
  split at h
  · cases h
  · split at h
    · exact .inl ⟨‹_›, (Option.some.inj h).symm⟩
    · exact .inr (Option.some.inj h).symm

theorem le_magnitude_of_isSpecial (h : x.isSpecial) : 0x7F800000 ≤ x.magnitude := by
  have hexp : x.biasedExponent = 255 := eq_of_beq h
  rw [magnitude_eq, hexp]
  exact Nat.le_add_right ..

theorem value?_one : one.value? = some 1 := by
  have hfinite : one.value? = some (finite one.abs.toRat) := rfl
  rw [hfinite, toRat_abs_one]
  rfl

theorem value?_half : half.value? = some (finite (1 / 2)) := by
  have hfinite : half.value? = some (finite half.abs.toRat) := rfl
  rw [hfinite, toRat_abs_half]

theorem value_le_zero_iff (h : x.value? = some q) : q ≤ 0 ↔ x.isNegative ∨ x.isZero := by
  rcases value_cases h with ⟨hspecial, rfl⟩ | rfl
  · have hmagnitude := le_magnitude_of_isSpecial hspecial
    have hzero : ¬ x.isZero := by
      rw [isZero, beq_iff_eq]
      omega
    split
    · simp [*]
    · exact iff_of_false (not_le.2 (finite_lt_top 0)) (by simp [*])
  · rw [show (0 : WithBot (WithTop ℚ)) = finite 0 from rfl, finite_le_finite_iff]
    split
    · simp [*, toRat_abs_nonneg]
    · rw [← not_lt, toRat_abs_pos_iff]
      simp [*]

theorem value_le_one_iff (h : x.value? = some q) (hsign : x.isNegative = false) :
    q ≤ 1 ↔ x.magnitude ≤ one.magnitude := by
  rcases value_cases h with ⟨hspecial, rfl⟩ | rfl
  · have hmagnitude := le_magnitude_of_isSpecial hspecial
    have hone : one.magnitude < 0x7F800000 := by decide
    rw [hsign]
    refine iff_of_false (not_le.2 (finite_lt_top 1)) (by omega)
  · rw [show (1 : WithBot (WithTop ℚ)) = finite 1 from rfl, finite_le_finite_iff, hsign,
      ← toRat_abs_one]
    exact toRat_abs_le_iff

end Binary32

end InputHub
