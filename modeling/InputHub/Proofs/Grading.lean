import InputHub.Haptics.Motor
import InputHub.Proofs.Playing
import InputHub.Proofs.Rounding

/-!
# The level of a pulse

A vibrator whose strength can be set and which has no primitives is asked for a pulse with a level
from 1 to 255. The level is found in two roundings, of the product with 255 to single precision and
of that to a whole number, and then held within its range:

* `Vibrator.rounded_mono`: a larger strength never gives a smaller whole number;
* `Vibrator.abs_rounded_sub_le`: both roundings together are hardly more than one half off, since
  the product is less than 256 and single precision keeps 16 places of it behind the point;
* `Vibrator.pulse_follows_scale`: so the levels of all pulses, down to the least positive strength.
-/

namespace InputHub

namespace Binary32

variable {x : Binary32} {q : ℚ}

theorem finite_injective : Function.Injective finite :=
  fun _ _ h => le_antisymm (finite_le_finite_iff.1 h.le) (finite_le_finite_iff.1 h.ge)

theorem bot_lt_finite (a : ℚ) : ⊥ < finite a := WithBot.bot_lt_coe _

theorem toRat_abs_of_value? (h : x.value? = some (finite q)) (hq : 0 < q) : x.abs.toRat = q := by
  rcases value_cases h with ⟨-, hinfinite⟩ | hfinite
  · split at hinfinite
    · exact absurd hinfinite (bot_lt_finite q).ne'
    · exact absurd hinfinite (finite_lt_top q).ne
  · have hq' := finite_injective hfinite
    split at hq'
    · have := x.toRat_abs_nonneg
      linarith
    · exact hq'.symm

end Binary32

namespace Vibrator

open Binary32

variable {σ : Type} {v : Vibrator σ} {x y scale : Binary32} {q r : ℚ} {l m : UInt8}

/-! ## Two roundings -/

/-- The product of a strength with 255 in single precision. -/
def product (x : Binary32) : Dyadic := Format.single.nearest (255 * x.abs.num) x.abs.den

/-- The product as a whole number, not held within the range of levels. -/
def rounded (x : Binary32) : Nat := Rounding.halfUp (product x).num (product x).den

theorem toNat_level (x : Binary32) : (level x).toNat = max 1 (min 255 (rounded x)) := by
  rw [level, UInt8.toNat_ofNat_of_lt' (by show _ < 256; omega)]
  rfl

theorem quotient_eq (x : Binary32) :
    ((255 * x.abs.num : Nat) : ℚ) / x.abs.den = 255 * x.abs.toRat := by
  rw [Dyadic.toRat_eq_num_div_den, Nat.cast_mul, mul_div_assoc]
  rfl

theorem rounded_mono (h : x.abs.toRat ≤ y.abs.toRat) : rounded x ≤ rounded y := by
  refine Rounding.halfUp_mono (Dyadic.den_pos _) (Dyadic.den_pos _) ?_
  rw [← Dyadic.toRat_eq_num_div_den, ← Dyadic.toRat_eq_num_div_den]
  refine Format.toRat_nearest_mono (Dyadic.den_pos _) (Dyadic.den_pos _) ?_
  rw [quotient_eq, quotient_eq]
  linarith

/-- A product up to 255 has its leading bit at seven at most, and its last one 23 places below. -/
theorem lastBit_product_le (hnum : 0 < 255 * x.abs.num) (hone : x.abs.toRat ≤ 1) :
    Format.single.lastBit (255 * x.abs.num) x.abs.den ≤ -16 := by
  have hbit : Format.leadingBit (255 * x.abs.num) x.abs.den ≤ 7 := by
    refine Format.leadingBit_le_of_lt hnum (Dyadic.den_pos _) ?_
    rw [quotient_eq]
    norm_num
    linarith
  show max (-149 : Int) (Format.leadingBit (255 * x.abs.num) x.abs.den - (24 - 1 : Nat)) ≤ -16
  omega

theorem abs_product_sub_le (hpos : 0 < x.abs.toRat) (hone : x.abs.toRat ≤ 1) :
    |(product x).toRat - 255 * x.abs.toRat| ≤ 2 ^ (-17 : Int) := by
  have hnum : 0 < 255 * x.abs.num := by
    rw [Dyadic.toRat_eq_num_div_den] at hpos
    by_contra hzero
    rw [show x.abs.num = 0 by omega, Nat.cast_zero, zero_div] at hpos
    exact lt_irrefl 0 hpos
  have herror := Format.abs_toRat_nearest_sub_le (f := .single) hnum (Dyadic.den_pos x.abs)
  rw [quotient_eq] at herror
  calc
    |(product x).toRat - 255 * x.abs.toRat| ≤
        2 ^ Format.single.lastBit (255 * x.abs.num) x.abs.den / 2 := herror
    _ ≤ 2 ^ (-16 : Int) / 2 := by
      gcongr
      · norm_num
      · exact lastBit_product_le hnum hone
    _ = 2 ^ (-17 : Int) := by norm_num

theorem abs_rounded_sub_le (hpos : 0 < x.abs.toRat) (hone : x.abs.toRat ≤ 1) :
    |(rounded x : ℚ) - 255 * x.abs.toRat| ≤ 1 / 2 + 2 ^ (-17 : Int) := by
  have hwhole := (Rounding.near_halfUp (a := (product x).num) (product x).den_pos).abs_sub_le
    (product x).den_pos
  rw [← Dyadic.toRat_eq_num_div_den] at hwhole
  calc
    |(rounded x : ℚ) - 255 * x.abs.toRat| ≤
        |(rounded x : ℚ) - (product x).toRat| + |(product x).toRat - 255 * x.abs.toRat| :=
      abs_sub_le ..
    _ ≤ 1 / 2 + 2 ^ (-17 : Int) := add_le_add hwhole (abs_product_sub_le hpos hone)

/-! ## Levels -/

theorem level_mono (h : x.abs.toRat ≤ y.abs.toRat) : level x ≤ level y := by
  rw [UInt8.le_iff_toNat_le, toNat_level, toNat_level]
  have := rounded_mono h
  omega

/-- Below one half the whole number is 0 or 1. -/
theorem level_eq_one (hpos : 0 < x.abs.toRat) (hlow : 255 * x.abs.toRat < 1 / 2) :
    level x = 1 := by
  have herror := abs_le.1 (abs_rounded_sub_le hpos (by linarith))
  have hlt : (rounded x : ℚ) < 2 := by
    have : (2 : ℚ) ^ (-17 : Int) < 1 := by norm_num
    linarith [herror.2]
  have hlt : rounded x < 2 := by exact_mod_cast hlt
  rw [← UInt8.toNat_inj, toNat_level]
  show max 1 (min 255 (rounded x)) = 1
  omega

/-- The bounds of the range are no farther from the product than a whole number beyond them. -/
theorem abs_level_sub_le (hone : x.abs.toRat ≤ 1) (hlow : 1 / 2 ≤ 255 * x.abs.toRat) :
    |((level x).toNat : ℚ) - 255 * x.abs.toRat| ≤ 1 / 2 + 2 ^ (-17 : Int) := by
  have herror := abs_rounded_sub_le (by linarith) hone
  have hpow : (0 : ℚ) < 2 ^ (-17 : Int) := by positivity
  rw [toNat_level]
  rcases Nat.eq_zero_or_pos (rounded x) with hzero | hpos
  · rw [hzero, Nat.cast_zero] at herror
    have hnear := (abs_le.1 herror).1
    rw [hzero, show max 1 (min 255 0) = 1 by decide, Nat.cast_one, abs_le]
    constructor <;> linarith
  · rcases Nat.lt_or_ge 255 (rounded x) with hhigh | hin
    · have hhigh' : (255 : ℚ) ≤ rounded x := by exact_mod_cast hhigh.le
      have hnear := (abs_le.1 herror).2
      rw [show max 1 (min 255 (rounded x)) = 255 by omega, Nat.cast_ofNat, abs_le]
      constructor <;> linarith
    · rwa [show max 1 (min 255 (rounded x)) = rounded x by omega]

/-! ## Pulses -/

/-- A vibrator with a motor whose strength can be set, and without primitives. -/
structure Dimmable (v : Vibrator σ) : Prop where
  present : v.present
  amplitudeControl : v.amplitudeControl
  noPrimitives (e : Effect) : v.supports e = false

/-- An intensity comes to a strength of some value, and an effect at this intensity to one pulse of
some level. -/
structure Pulses (v : Vibrator σ) (e : Effect) (s : σ) (x : Binary32) (q : ℚ) (l : UInt8) :
    Prop where
  clamped : ∃ scale, Clamped x scale ∧ scale.value? = some (finite q)
  asked : v.asked e x s = [.oneShot e.fallbackMs (.level l)]

theorem exists_strength? (h : ¬ Silent x) : ∃ scale, strength? x = some scale :=
  Option.ne_none_iff_exists'.1 fun hnone => h (strength?_eq_none_iff.1 hnone)

theorem Clamped.strength?_eq (h : Clamped x scale) : strength? x = some scale := by
  obtain ⟨q, hq, hpos, -, hsame, hone⟩ := h
  have hloud : ¬ Silent x := by
    rintro (hnone | ⟨q', hq', hle⟩)
    · rw [hq] at hnone
      cases hnone
    · obtain rfl : q = q' := Option.some.inj (hq.symm.trans hq')
      exact absurd hpos (not_lt.2 hle)
  obtain ⟨scale', hscale'⟩ := exists_strength? hloud
  obtain ⟨q', hq', -, -, hsame', hone'⟩ := clamped_of_strength? hscale'
  obtain rfl : q = q' := Option.some.inj (hq.symm.trans hq')
  rw [hscale', Option.some.injEq]
  rcases le_or_gt q 1 with hle | hlt
  · rw [hsame hle, hsame' hle]
  · rw [hone hlt, hone' hlt]

theorem Clamped.exists_value (h : Clamped x scale) :
    ∃ q, scale.value? = some (finite q) ∧ 0 < q ∧ q ≤ 1 := by
  obtain ⟨q, -, hpos, hvalue, -⟩ := h
  have hle : min q 1 ≤ finite 1 := min_le_right q 1
  have hlt : finite 0 < min q 1 := lt_min hpos (not_le.1 fun h => by
    have := finite_le_finite_iff.1 h
    norm_num at this)
  rcases value_cases hvalue with ⟨-, hinfinite⟩ | hfinite
  · split at hinfinite
    · exact absurd (hinfinite ▸ hlt) not_lt_bot
    · exact absurd (finite_lt_top 1) (not_lt.2 (hinfinite ▸ hle))
  · rw [hfinite] at hvalue hle hlt
    refine ⟨_, hvalue, ?_, finite_le_finite_iff.1 hle⟩
    exact not_le.1 fun h => absurd hlt (not_lt.2 (finite_le_finite_iff.2 h))

namespace Dimmable

variable (hv : v.Dimmable) {e : Effect} {s : σ}
include hv

theorem asked_eq (h : strength? x = some scale) :
    v.asked e x s = [.oneShot e.fallbackMs (.level (level scale))] := by
  rw [Vibrator.asked_eq, plan?, if_pos hv.present, h, Option.map_some, hv.noPrimitives e,
    if_neg Bool.false_ne_true, if_pos hv.amplitudeControl]
  rfl

theorem pulses (hclamped : Clamped x scale) (hvalue : scale.value? = some (finite q)) :
    v.Pulses e s x q (level scale) :=
  ⟨⟨scale, hclamped, hvalue⟩, hv.asked_eq hclamped.strength?_eq⟩

/-- A pulse has the level of the strength that its intensity comes to. -/
theorem exists_scale (h : v.Pulses e s x q l) :
    ∃ scale, scale.abs.toRat = q ∧ level scale = l ∧ 0 < q ∧ q ≤ 1 := by
  obtain ⟨⟨scale, hclamped, hvalue⟩, hasked⟩ := h
  obtain ⟨q', hvalue', hpos, hone⟩ := hclamped.exists_value
  obtain rfl : q = q' := finite_injective (Option.some.inj (hvalue.symm.trans hvalue'))
  refine ⟨scale, toRat_abs_of_value? hvalue hpos, ?_, hpos, hone⟩
  rw [hv.asked_eq hclamped.strength?_eq] at hasked
  simpa using hasked

end Dimmable

/-- On a vibrator whose strength can be set and which has no primitives, every effect at an
intensity that is not silent comes to one pulse, and its level goes by the value of the strength
alone. A larger strength never gives a lower level. The level is 1 where 255 times the strength is
less than one half, and elsewhere it differs from that product by one half and `2 ^ (-17)` at
most. -/
theorem pulse_follows_scale (hv : v.Dimmable) :
    (∀ e s x, ¬ Silent x → ∃ q l, v.Pulses e s x q l ∧ 0 < q ∧ q ≤ 1) ∧
    (∀ e s x q l e' s' y r m, v.Pulses e s x q l → v.Pulses e' s' y r m → q ≤ r → l ≤ m) ∧
    (∀ e s x q l, v.Pulses e s x q l → 255 * q < 1 / 2 → l = 1) ∧
    ∀ e s x q l, v.Pulses e s x q l → 1 / 2 ≤ 255 * q →
      |(l.toNat : ℚ) - 255 * q| ≤ 1 / 2 + 2 ^ (-17 : Int) := by
  refine ⟨fun e s x hloud => ?_, fun e s x q l e' s' y r m hl hm hle => ?_,
    fun e s x q l hl hlow => ?_, fun e s x q l hl hlow => ?_⟩
  · obtain ⟨scale, hscale⟩ := exists_strength? hloud
    obtain ⟨q, hvalue, hpos, hone⟩ := (clamped_of_strength? hscale).exists_value
    exact ⟨q, level scale, hv.pulses (clamped_of_strength? hscale) hvalue, hpos, hone⟩
  · obtain ⟨scale, rfl, rfl, -⟩ := hv.exists_scale hl
    obtain ⟨scale', rfl, rfl, -⟩ := hv.exists_scale hm
    exact level_mono hle
  · obtain ⟨scale, rfl, rfl, hpos, -⟩ := hv.exists_scale hl
    exact level_eq_one hpos hlow
  · obtain ⟨scale, rfl, rfl, -, hone⟩ := hv.exists_scale hl
    exact abs_level_sub_le hone hlow

/-- A recording motor for plain pulses whose strength can be set. -/
def dimmer : Motor := .ofBuild (Motor.Build.basic.withAmplitudeControl true)

/-- At one half the product 127.5 is a half and goes up to 128; the least positive strength still
has the level 1. -/
theorem pulse_follows_scale_dimmer :
    dimmer.vibrator.Dimmable ∧
    dimmer.vibrator.Pulses .spin dimmer .half (1 / 2) 128 ∧
    |((128 : UInt8).toNat : ℚ) - 255 * (1 / 2)| ≤ 1 / 2 + 2 ^ (-17 : Int) ∧
    ∃ q : ℚ, dimmer.vibrator.Pulses .click dimmer ⟨1⟩ q 1 ∧ 255 * q < 1 / 2 ∧
      (1 : UInt8) ≤ 128 := by
  have hv : dimmer.vibrator.Dimmable := ⟨rfl, rfl, fun _ => rfl⟩
  obtain ⟨-, hmono, hone, herror⟩ := pulse_follows_scale hv
  have hhalf : dimmer.vibrator.Pulses .spin dimmer .half (1 / 2) 128 :=
    ⟨⟨.half, clamped_of_strength? (by decide), value?_half⟩, by decide⟩
  have hvalue : value? ⟨1⟩ = some (finite (1 * 2 ^ (-149 : Int))) := by
    have hunits : units ⟨1⟩ = 1 := by decide
    have hfinite : value? ⟨1⟩ = some (finite (abs ⟨1⟩).toRat) := rfl
    rw [hfinite, toRat_abs, hunits, Nat.cast_one]
  have hlow : 255 * (1 * 2 ^ (-149 : Int) : ℚ) < 1 / 2 := by norm_num
  have hclamped : Clamped ⟨1⟩ ⟨1⟩ := clamped_of_strength? (by decide)
  have hleast := hv.pulses (e := .click) (s := dimmer) hclamped hvalue
  have hlevel := hone _ _ _ _ _ hleast hlow
  rw [hlevel] at hleast
  refine ⟨hv, hhalf, herror _ _ _ _ _ hhalf (by norm_num), _, hleast, hlow, ?_⟩
  exact hmono _ _ _ _ _ _ _ _ _ _ hleast hhalf (by norm_num)

end Vibrator

end InputHub
