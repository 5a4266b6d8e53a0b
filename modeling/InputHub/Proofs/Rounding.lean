import Mathlib.Algebra.Order.Field.Power
import Mathlib.Tactic.FieldSimp
import Mathlib.Tactic.Linarith
import Mathlib.Tactic.Ring
import InputHub.Proofs.Measuring

/-!
# Rounding errors

Quotients are rounded to whole numbers, with either rule for halves, and to numbers of a binary
format. The rounded number is at most half a unit away, and a larger quotient never gives a smaller
number:

* `Rounding.halfEven_le_iff`, `Rounding.halfUp_le_iff`: which quotients are rounded to at most a
  whole number; the two rules differ at halves only;
* `Format.leadingBit_spec`: a quotient lies between the power of two of its leading bit and the
  next;
* `Format.abs_toRat_nearest_sub_le`: the error of a format is half of its last bit at most, also
  below the least normal number;
* `Format.toRat_nearest_mono`: rounding to a format is monotone, also from one power of two to the
  next, where the last bit changes.
-/

namespace InputHub

namespace Rounding

variable {a b c d n : Nat}

/-! ## Whole numbers -/

theorem halfEven_eq (a b : Nat) :
    halfEven a b =
      if 2 * (a % b) < b then a / b
      else if b < 2 * (a % b) then a / b + 1
      else if a / b % 2 = 0 then a / b else a / b + 1 := by
  unfold halfEven
  split
  · rename_i hlt
    rw [if_pos (Nat.compare_eq_lt.1 hlt)]
  · rename_i hgt
    have hgt := Nat.compare_eq_gt.1 hgt
    rw [if_neg (Nat.lt_asymm hgt), if_pos hgt]
  · rename_i heq
    have heq := Nat.compare_eq_eq.1 heq
    rw [if_neg (Nat.not_lt.2 heq.ge), if_neg (Nat.not_lt.2 heq.le)]

/-- A quotient is rounded to at most `n` if it is less than `n + 1 / 2`, and there only if `n` is
even. -/
theorem halfEven_le_iff (hb : 0 < b) :
    halfEven a b ≤ n ↔ 2 * a < (2 * n + 1) * b ∨ 2 * a = (2 * n + 1) * b ∧ n % 2 = 0 := by
  have hexpand : (2 * n + 1) * b = 2 * (b * n) + b := by ring
  have hdiv := Nat.div_add_mod a b
  have hmod := Nat.mod_lt a hb
  rw [halfEven_eq, hexpand]
  rcases Nat.lt_trichotomy n (a / b) with hlt | rfl | hgt
  · have hmul : b * (n + 1) ≤ b * (a / b) := Nat.mul_le_mul_left b hlt
    rw [Nat.mul_succ] at hmul
    split_ifs <;> omega
  · split_ifs <;> omega
  · have hmul : b * (a / b + 1) ≤ b * n := Nat.mul_le_mul_left b hgt
    rw [Nat.mul_succ] at hmul
    split_ifs <;> omega

theorem halfUp_le_iff (hb : 0 < b) : halfUp a b ≤ n ↔ 2 * a < (2 * n + 1) * b := by
  have hexpand : (n + 1) * (2 * b) = (2 * n + 1) * b + b := by ring
  rw [halfUp, ← Nat.lt_succ_iff, Nat.div_lt_iff_lt_mul (by omega), hexpand]
  omega

/-- A whole number is at most one half away from a quotient. -/
def Near (n a b : Nat) : Prop := 2 * a ≤ (2 * n + 1) * b ∧ 2 * n * b ≤ 2 * a + b

theorem near_of_le {m : Nat} (hhigh : 2 * a ≤ (2 * m + 1) * b)
    (hlow : ∀ n, 2 * a < (2 * n + 1) * b → m ≤ n) : Near m a b := by
  refine ⟨hhigh, ?_⟩
  cases m with
  | zero => omega
  | succ n =>
    have hle : (2 * n + 1) * b ≤ 2 * a := Nat.le_of_not_lt fun hlt => absurd (hlow n hlt) (by omega)
    have hexpand : 2 * (n + 1) * b = (2 * n + 1) * b + b := by ring
    omega

theorem near_halfEven (hb : 0 < b) : Near (halfEven a b) a b := by
  refine near_of_le ?_ fun n hlt => (halfEven_le_iff hb).2 (.inl hlt)
  rcases (halfEven_le_iff hb).1 (Nat.le_refl (halfEven a b)) with hlt | ⟨heq, -⟩
  · exact Nat.le_of_lt hlt
  · exact Nat.le_of_eq heq

theorem near_halfUp (hb : 0 < b) : Near (halfUp a b) a b :=
  near_of_le (Nat.le_of_lt ((halfUp_le_iff hb).1 (Nat.le_refl _)))
    fun _ hlt => (halfUp_le_iff hb).2 hlt

theorem Near.abs_sub_le (hb : 0 < b) (h : Near n a b) : |(n : ℚ) - a / b| ≤ 1 / 2 := by
  have hpos : (0 : ℚ) < b := Nat.cast_pos.2 hb
  obtain ⟨hhigh, hlow⟩ := h
  have hhigh : (2 * a : ℚ) ≤ (2 * n + 1) * b := by exact_mod_cast hhigh
  have hlow : (2 * n * b : ℚ) ≤ 2 * a + b := by exact_mod_cast hlow
  have hle : (a : ℚ) / b ≤ n + 1 / 2 := by
    rw [div_le_iff₀ hpos]
    linarith
  have hge : (n : ℚ) - 1 / 2 ≤ a / b := by
    rw [le_div_iff₀ hpos]
    linarith
  rw [abs_le]
  constructor <;> linarith

theorem cross_le (hb : 0 < b) (hd : 0 < d) (h : (a : ℚ) / b ≤ c / d) : a * d ≤ c * b := by
  rw [div_le_div_iff₀ (Nat.cast_pos.2 hb) (Nat.cast_pos.2 hd)] at h
  exact_mod_cast h

theorem halfEven_mono (hb : 0 < b) (hd : 0 < d) (h : (a : ℚ) / b ≤ c / d) :
    halfEven a b ≤ halfEven c d := by
  have hcross := cross_le hb hd h
  rw [halfEven_le_iff hb]
  generalize hn : halfEven c d = n
  rcases (halfEven_le_iff hd).1 (Nat.le_of_eq hn) with hlt | ⟨heq, heven⟩
  · refine .inl (Nat.lt_of_mul_lt_mul_right (a := d) ?_)
    nlinarith
  · have hle : 2 * a ≤ (2 * n + 1) * b := Nat.le_of_mul_le_mul_right (by nlinarith) hd
    rcases Nat.lt_or_eq_of_le hle with hlt | heq'
    · exact .inl hlt
    · exact .inr ⟨heq', heven⟩

theorem halfUp_mono (hb : 0 < b) (hd : 0 < d) (h : (a : ℚ) / b ≤ c / d) :
    halfUp a b ≤ halfUp c d := by
  have hcross := cross_le hb hd h
  rw [halfUp_le_iff hb]
  have hlt := (halfUp_le_iff hd).1 (Nat.le_refl (halfUp c d))
  refine Nat.lt_of_mul_lt_mul_right (a := d) ?_
  nlinarith

theorem halfEven_one (n : Nat) : halfEven n 1 = n := by
  rw [halfEven_eq, if_pos (by rw [Nat.mod_one]; decide), Nat.div_one]

end Rounding

/-! ## Binary numbers as quotients -/

theorem two_zpow_eq (k : Int) : (2 : ℚ) ^ k = 2 ^ k.toNat / 2 ^ (-k).toNat := by
  rcases Int.le_total 0 k with hk | hk
  · obtain ⟨n, rfl⟩ := Int.eq_ofNat_of_zero_le hk
    simp
  · obtain ⟨n, hn⟩ := Int.eq_ofNat_of_zero_le (Int.neg_nonneg_of_nonpos hk)
    obtain rfl : k = -n := by omega
    simp

namespace Dyadic

theorem den_pos (x : Dyadic) : 0 < x.den := by
  rw [den, Nat.shiftLeft_eq, Nat.one_mul]
  exact Nat.two_pow_pos _

theorem toRat_eq_num_div_den (x : Dyadic) : x.toRat = x.num / x.den := by
  rw [toRat, num, den, Nat.shiftLeft_eq, Nat.shiftLeft_eq, two_zpow_eq]
  push_cast
  ring

end Dyadic

namespace Format

open Rounding

variable {f : Format} {a b c d : Nat} {k : Int}

/-! ## The leading bit -/

theorem shifted_le_shifted_iff (hb : 0 < b) :
    b <<< k.toNat ≤ a <<< (-k).toNat ↔ (2 : ℚ) ^ k ≤ a / b := by
  rw [Nat.shiftLeft_eq, Nat.shiftLeft_eq, two_zpow_eq,
    div_le_div_iff₀ (by positivity) (Nat.cast_pos.2 hb), Nat.mul_comm b]
  exact_mod_cast Iff.rfl

theorem leadingBit_spec (ha : 0 < a) (hb : 0 < b) :
    (2 : ℚ) ^ leadingBit a b ≤ a / b ∧ (a : ℚ) / b < 2 ^ (leadingBit a b + 1) := by
  have hpos : (0 : ℚ) < b := Nat.cast_pos.2 hb
  have halow : (2 : ℚ) ^ a.log2 ≤ a := by exact_mod_cast Nat.log2_self_le (by omega)
  have hahigh : (a : ℚ) < 2 ^ (a.log2 + 1) := by exact_mod_cast Nat.lt_log2_self
  have hblow : (2 : ℚ) ^ b.log2 ≤ b := by exact_mod_cast Nat.log2_self_le (by omega)
  have hbhigh : (b : ℚ) < 2 ^ (b.log2 + 1) := by exact_mod_cast Nat.lt_log2_self
  rw [leadingBit]
  generalize hk : (a.log2 : Int) - b.log2 = k
  -- The lengths of numerator and denominator tell the leading bit up to one place.
  have hlow : (2 : ℚ) ^ (k - 1) ≤ a / b := by
    have hpow : (2 : ℚ) ^ (k - 1) * 2 ^ (b.log2 + 1) = 2 ^ a.log2 := by
      rw [← zpow_natCast, ← zpow_natCast, ← zpow_add₀ (by norm_num)]
      congr 1
      omega
    rw [le_div_iff₀ hpos]
    calc
      (2 : ℚ) ^ (k - 1) * b ≤ 2 ^ (k - 1) * 2 ^ (b.log2 + 1) := by gcongr
      _ = 2 ^ a.log2 := hpow
      _ ≤ a := halow
  have hhigh : (a : ℚ) / b < 2 ^ (k + 1) := by
    have hpow : (2 : ℚ) ^ (k + 1) * 2 ^ b.log2 = 2 ^ (a.log2 + 1) := by
      rw [← zpow_natCast, ← zpow_natCast, ← zpow_add₀ (by norm_num)]
      congr 1
      omega
    rw [div_lt_iff₀ hpos]
    calc
      (a : ℚ) < 2 ^ (a.log2 + 1) := hahigh
      _ = 2 ^ (k + 1) * 2 ^ b.log2 := hpow.symm
      _ ≤ 2 ^ (k + 1) * b := by gcongr
  simp only [shifted_le_shifted_iff hb]
  split
  · exact ⟨‹_›, hhigh⟩
  · rw [Int.sub_add_cancel]
    exact ⟨hlow, not_le.1 ‹_›⟩

theorem leadingBit_le_of_lt (ha : 0 < a) (hb : 0 < b) (h : (a : ℚ) / b < 2 ^ (k + 1)) :
    leadingBit a b ≤ k := by
  have hlt := (leadingBit_spec ha hb).1.trans_lt h
  rw [zpow_lt_zpow_iff_right₀ (by norm_num)] at hlt
  omega

/-! ## Rounding to a format -/

/-- The exponent of the last bit that a format keeps of a quotient. -/
def lastBit (f : Format) (a b : Nat) : Int :=
  max f.leastExponent (leadingBit a b - (f.precision - 1 : Nat))

theorem toRat_nearest (ha : 0 < a) :
    (f.nearest a b).toRat =
      halfEven (a <<< (-f.lastBit a b).toNat) (b <<< (f.lastBit a b).toNat) *
        2 ^ f.lastBit a b := by
  rw [nearest, if_neg (by omega)]
  rfl

theorem toRat_nearest_zero : (f.nearest 0 b).toRat = 0 := by
  simp [nearest, Dyadic.toRat]

theorem shifted_pos (hb : 0 < b) (n : Nat) : 0 < b <<< n := by
  rw [Nat.shiftLeft_eq]
  exact Nat.mul_pos hb (Nat.two_pow_pos n)

/-- What is rounded is the quotient in units of the last bit. -/
theorem shifted_div_shifted (a b : Nat) (k : Int) :
    ((a <<< (-k).toNat : Nat) : ℚ) / (b <<< k.toNat : Nat) = a / b / 2 ^ k := by
  rw [Nat.shiftLeft_eq, Nat.shiftLeft_eq, two_zpow_eq]
  push_cast
  field_simp

theorem abs_toRat_nearest_sub_le (ha : 0 < a) (hb : 0 < b) :
    |(f.nearest a b).toRat - a / b| ≤ 2 ^ f.lastBit a b / 2 := by
  rw [toRat_nearest ha]
  generalize f.lastBit a b = k
  have hunit : (0 : ℚ) < 2 ^ k := by positivity
  have hnear := (near_halfEven (a := a <<< (-k).toNat) (shifted_pos hb k.toNat)).abs_sub_le
    (shifted_pos hb k.toNat)
  rw [shifted_div_shifted] at hnear
  generalize (halfEven _ _ : ℚ) = m at hnear ⊢
  calc
    |m * 2 ^ k - a / b| = |m - a / b / 2 ^ k| * 2 ^ k := by
      rw [← abs_of_pos hunit, ← abs_mul, abs_of_pos hunit, sub_mul, div_mul_cancel₀ _ hunit.ne']
    _ ≤ 1 / 2 * 2 ^ k := by gcongr
    _ = 2 ^ k / 2 := by ring

theorem exists_two_pow_mul {e : Int} (h : e ≤ k) : ∃ n : Nat, (2 : ℚ) ^ n * 2 ^ e = 2 ^ k := by
  obtain ⟨n, hn⟩ := Int.eq_ofNat_of_zero_le (Int.sub_nonneg_of_le h)
  refine ⟨n, ?_⟩
  rw [← zpow_natCast, ← zpow_add₀ (by norm_num)]
  congr 1
  omega

/-- A power of two from the last bit on stands among the numbers to round to, so that rounding does
not pass it. -/
theorem toRat_nearest_le_two_zpow (ha : 0 < a) (hb : 0 < b) (hk : f.lastBit a b ≤ k)
    (h : (a : ℚ) / b ≤ 2 ^ k) : (f.nearest a b).toRat ≤ 2 ^ k := by
  rw [toRat_nearest ha]
  generalize f.lastBit a b = e at hk
  obtain ⟨n, hpow⟩ := exists_two_pow_mul hk
  have hle : halfEven (a <<< (-e).toNat) (b <<< e.toNat) ≤ halfEven (2 ^ n) 1 := by
    refine halfEven_mono (shifted_pos hb _) Nat.one_pos ?_
    rw [shifted_div_shifted, div_le_iff₀ (by positivity)]
    simpa [hpow] using h
  rw [halfEven_one] at hle
  rw [← hpow]
  gcongr
  exact_mod_cast hle

theorem two_zpow_le_toRat_nearest (ha : 0 < a) (hb : 0 < b) (hk : f.lastBit a b ≤ k)
    (h : (2 : ℚ) ^ k ≤ a / b) : 2 ^ k ≤ (f.nearest a b).toRat := by
  rw [toRat_nearest ha]
  generalize f.lastBit a b = e at hk
  obtain ⟨n, hpow⟩ := exists_two_pow_mul hk
  have hle : halfEven (2 ^ n) 1 ≤ halfEven (a <<< (-e).toNat) (b <<< e.toNat) := by
    refine halfEven_mono Nat.one_pos (shifted_pos hb _) ?_
    rw [shifted_div_shifted, le_div_iff₀ (by positivity)]
    simpa [hpow] using h
  rw [halfEven_one] at hle
  rw [← hpow]
  gcongr
  exact_mod_cast hle

theorem toRat_nearest_mono (hb : 0 < b) (hd : 0 < d) (h : (a : ℚ) / b ≤ c / d) :
    (f.nearest a b).toRat ≤ (f.nearest c d).toRat := by
  rcases Nat.eq_zero_or_pos a with rfl | ha
  · rw [toRat_nearest_zero, Dyadic.toRat]
    positivity
  have hc : 0 < c := by
    have hpos : (0 : ℚ) < a / b := div_pos (Nat.cast_pos.2 ha) (Nat.cast_pos.2 hb)
    by_contra hzero
    obtain rfl : c = 0 := by omega
    rw [Nat.cast_zero, zero_div] at h
    linarith
  have hhigh := (leadingBit_spec hc hd).2
  have hbit : leadingBit a b ≤ leadingBit c d := leadingBit_le_of_lt ha hb (h.trans_lt hhigh)
  have hlast : f.lastBit a b ≤ f.lastBit c d := by
    rw [lastBit, lastBit]
    omega
  rcases Int.lt_or_eq_of_le hlast with hlt | heq
  · -- The leading bit of the larger one is a power of two that rounding passes on neither side.
    have hfull : f.lastBit c d = leadingBit c d - (f.precision - 1 : Nat) := by
      rw [lastBit] at hlt ⊢
      rw [lastBit] at hlt
      omega
    have hsmall : leadingBit a b + 1 ≤ leadingBit c d := by
      rw [hfull, lastBit] at hlt
      omega
    have hbelow : (a : ℚ) / b ≤ 2 ^ leadingBit c d :=
      (leadingBit_spec ha hb).2.le.trans (zpow_le_zpow_right₀ (by norm_num) hsmall)
    exact (toRat_nearest_le_two_zpow ha hb (by omega) hbelow).trans
      (two_zpow_le_toRat_nearest hc hd (by omega) (leadingBit_spec hc hd).1)
  · rw [toRat_nearest ha, toRat_nearest hc, heq]
    generalize f.lastBit c d = k
    gcongr
    refine halfEven_mono (shifted_pos hb _) (shifted_pos hd _) ?_
    rw [shifted_div_shifted, shifted_div_shifted]
    gcongr

end Format

end InputHub
