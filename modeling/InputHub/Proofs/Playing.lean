import InputHub.Haptics.Vibrator
import InputHub.Proofs.Measuring

/-!
# What playing an effect asks of a motor

Whatever a vibrator can do and whatever becomes of its requests, an effect comes to one request or
to none. The requests are seen by a vibrator that behaves like the given one and writes down what it
is asked for:

* `Vibrator.strength?_eq_none_iff`, `Vibrator.clamped_of_strength?`: the intensities that are
  silent, and the strength of all others;
* `Vibrator.provide_watched`: being watched changes nothing, and what is written down is the plan;
* `Vibrator.routed_of_plan?`: which request an effect comes to;
* `Vibrator.provide_asks_once`: what playing an effect asks for, and what it hands back.
-/

namespace InputHub

/-- The reply with its error dropped, which leaves a notice. -/
def Reply.settled {σ : Type} (reply : Reply σ) : Reply σ :=
  ⟨.ok (), reply.state, reply.notices ++ match reply.result with
    | .ok () => []
    | .error err => [.rumbleFailed err]⟩

namespace Vibrator

variable {σ : Type} {v : Vibrator σ} {e : Effect} {x scale : Binary32} {r : Request} {s : σ}

/-! ## Strengths -/

/-- An intensity that is not a number, or at most zero. -/
def Silent (x : Binary32) : Prop := x.value? = none ∨ ∃ q, x.value? = some q ∧ q ≤ 0

/-- A strength is the positive intensity `x`, or one if `x` is more. -/
def Clamped (x scale : Binary32) : Prop :=
  ∃ q, x.value? = some q ∧ 0 < q ∧ scale.value? = some (min q 1) ∧
    (q ≤ 1 → scale = x) ∧ (1 < q → scale = .one)

theorem silent_iff : Silent x ↔ x.isNaN ∨ x.isNegative ∨ x.isZero := by
  rw [Silent, Binary32.value?_eq_none_iff]
  refine or_congr_right' fun hnan => ?_
  obtain ⟨q, hq⟩ := Option.ne_none_iff_exists'.1 fun h => hnan (Binary32.value?_eq_none_iff.1 h)
  simp [hq, Binary32.value_le_zero_iff hq]

theorem strength?_eq_none_iff : strength? x = none ↔ Silent x := by
  rw [silent_iff, strength?]
  split
  · simp_all [or_assoc]
  · split <;> simp_all

theorem clamped_of_strength? (h : strength? x = some scale) : Clamped x scale := by
  have hloud : ¬ Silent x := fun hsilent => by
    rw [strength?_eq_none_iff.2 hsilent] at h
    cases h
  obtain ⟨hnumber, hpos⟩ := not_or.1 hloud
  obtain ⟨q, hq⟩ := Option.ne_none_iff_exists'.1 hnumber
  have hsign : x.isNegative = false := by
    simp only [silent_iff, not_or, Bool.not_eq_true] at hloud
    exact hloud.2.1
  have hone := Binary32.value_le_one_iff hq hsign
  refine ⟨q, hq, not_le.1 fun hle => hpos ⟨q, hq, hle⟩, ?_⟩
  rw [strength?, if_neg (by simpa [silent_iff, or_assoc] using hloud)] at h
  split at h
  · rename_i hlt
    obtain rfl := Option.some.inj h
    have hlt : 1 < q := not_le.1 fun hle => absurd (hone.1 hle) (Nat.not_le.2 hlt)
    rw [min_eq_right (le_of_lt hlt)]
    exact ⟨Binary32.value?_one, fun hle => absurd hle (not_le.2 hlt), fun _ => rfl⟩
  · rename_i hle
    obtain rfl := Option.some.inj h
    have hle : q ≤ 1 := hone.2 (Nat.not_lt.1 hle)
    rw [min_eq_left hle]
    exact ⟨hq, fun _ => rfl, fun hlt => absurd hle (not_le.2 hlt)⟩

/-- The least positive number is played as it is, a negative zero is silent and so is a pattern that
is not a number, and an infinite intensity is played as one. -/
example : strength? ⟨1⟩ = some ⟨1⟩ ∧ strength? ⟨0x80000000⟩ = none ∧
    strength? ⟨0x7FC00000⟩ = none ∧ strength? ⟨0x7F800000⟩ = some .one := by
  decide

theorem one_le_level (x : Binary32) : 1 ≤ (level x).toNat := by
  rw [level, UInt8.toNat_ofNat_of_lt' (by show _ < 256; omega)]
  exact Nat.le_max_left ..

/-! ## Requests -/

/-- The request of an effect at some intensity: the primitive, if the vibrator has it, and otherwise
a pulse of the effect's length, with a level if the vibrator takes one. -/
inductive Routed (v : Vibrator σ) (e : Effect) (x : Binary32) : Request → Prop where
  | primitive {scale : Binary32} (h : v.supports e) (hscale : Clamped x scale) :
      Routed v e x (.primitive e scale)
  | graded {scale : Binary32} (h : v.supports e = false) (hcontrol : v.amplitudeControl)
      (hscale : Clamped x scale) (hlow : 1 ≤ (level scale).toNat)
      (hhigh : (level scale).toNat ≤ 255) :
      Routed v e x (.oneShot e.fallbackMs (.level (level scale)))
  | plain (h : v.supports e = false) (hcontrol : v.amplitudeControl = false) :
      Routed v e x (.oneShot e.fallbackMs .standard)

theorem plan?_eq_none_iff : v.plan? e x = none ↔ v.present = false ∨ Silent x := by
  rw [plan?]
  split <;> simp_all [strength?_eq_none_iff]

theorem routed_of_plan? (h : v.plan? e x = some r) : v.Routed e x r := by
  rw [plan?] at h
  split at h
  · obtain ⟨scale, hscale, rfl⟩ := Option.map_eq_some_iff.1 h
    have hclamped := clamped_of_strength? hscale
    cases hsupports : v.supports e with
    | true => exact .primitive hsupports hclamped
    | false =>
      cases hcontrol : v.amplitudeControl with
      | true =>
        have hhigh := Nat.le_of_lt_succ (level scale).toNat_lt
        exact .graded hsupports hcontrol hclamped (one_le_level scale) hhigh
      | false => exact .plain hsupports hcontrol
  · cases h

/-- The vibrator that also writes down what it is asked for. -/
def watched (v : Vibrator σ) : Vibrator (σ × List Request) where
  present := v.present
  amplitudeControl := v.amplitudeControl
  supports := v.supports
  perform r s :=
    let reply := v.perform r s.1
    ⟨reply.result, (reply.state, s.2 ++ [r]), reply.notices⟩

/-- What is asked of a vibrator when an effect is played. -/
def asked (v : Vibrator σ) (e : Effect) (x : Binary32) (s : σ) : List Request :=
  (v.watched.provide e x (s, [])).state.2

theorem provide_of_plan? (h : v.plan? e x = some r) : v.provide e x s = v.perform r s := by
  rw [provide, h]

theorem provide_of_plan?_none (h : v.plan? e x = none) :
    v.provide e x s = ⟨.ok (), s, if v.present then [] else [.noMotor e]⟩ := by
  rw [provide, h]

theorem provide_watched (v : Vibrator σ) (e : Effect) (x : Binary32) (s : σ) (log : List Request) :
    v.watched.provide e x (s, log) =
      ⟨(v.provide e x s).result, ((v.provide e x s).state, log ++ (v.plan? e x).toList),
        (v.provide e x s).notices⟩ := by
  have hplan : v.watched.plan? e x = v.plan? e x := rfl
  cases h : v.plan? e x with
  | none =>
    rw [provide_of_plan?_none h, provide_of_plan?_none (hplan.trans h), Option.toList_none,
      List.append_nil]
    rfl
  | some r =>
    rw [provide_of_plan? h, provide_of_plan? (hplan.trans h)]
    rfl

theorem asked_eq (v : Vibrator σ) (e : Effect) (x : Binary32) (s : σ) :
    v.asked e x s = (v.plan? e x).toList := by
  rw [asked, provide_watched]
  rfl

theorem rumble_eq_settled (v : Vibrator σ) (s : σ) :
    v.rumble s = (v.provide .spin .half s).settled := by
  show Vibrator.rumble v s = Reply.settled (v.provide .rumble rumbleIntensity s)
  rw [rumble]
  generalize v.provide .rumble rumbleIntensity s = reply
  obtain ⟨result, state, notices⟩ := reply
  cases result with
  | error err => rfl
  | ok _ => exact congrArg (Reply.mk _ state) (List.append_nil notices).symm

/-- Playing an effect asks the vibrator for one request at most. It asks for none, and succeeds,
exactly if there is no motor or the intensity is silent, and the state is then what it was.
Otherwise it asks for the one request of the effect and hands back all that comes of it. A primitive
is only asked for if the vibrator has it. A rumble is a spin at the intensity one half, with the
error dropped. -/
theorem provide_asks_once (v : Vibrator σ) (e : Effect) (x : Binary32) (s : σ) :
    (v.asked e x s).length ≤ 1 ∧
      ((v.asked e x s = [] ∧ (v.provide e x s).result = .ok ()) ↔ v.present = false ∨ Silent x) ∧
      (v.present = false ∨ Silent x → (v.provide e x s).state = s) ∧
      (¬ (v.present = false ∨ Silent x) →
        ∃ r, v.asked e x s = [r] ∧ v.Routed e x r ∧ v.provide e x s = v.perform r s) ∧
      (∀ e' scale, .primitive e' scale ∈ v.asked e x s → v.supports e') ∧
      v.rumble s = (v.provide .spin .half s).settled ∧
      (v.watched.rumble (s, [])).state = ((v.rumble s).state, v.asked .spin .half s) ∧
      Binary32.half.value? = some (Binary32.finite (1 / 2)) := by
  rw [asked_eq, asked_eq, ← plan?_eq_none_iff (e := e)]
  refine ⟨?_, ⟨fun h => ?_, fun h => ?_⟩, fun h => ?_, fun h => ?_, fun e' scale h => ?_,
    rumble_eq_settled v s, ?_, Binary32.value?_half⟩
  · cases v.plan? e x <;> simp
  · exact Option.toList_eq_nil_iff.1 h.1
  · rw [h, provide_of_plan?_none h]
    exact ⟨rfl, rfl⟩
  · rw [provide_of_plan?_none h]
  · obtain ⟨r, hr⟩ := Option.ne_none_iff_exists'.1 h
    exact ⟨r, by rw [hr, Option.toList_some], routed_of_plan? hr, provide_of_plan? hr⟩
  · rw [Option.mem_toList] at h
    cases routed_of_plan? h with
    | primitive hsupports => exact hsupports
  · rw [rumble_eq_settled, rumble_eq_settled, provide_watched]
    rfl

end Vibrator

end InputHub
