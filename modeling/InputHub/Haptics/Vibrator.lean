import InputHub.Notice

/-!
# Playing effects

A vibrator says what it can do and takes requests. Playing an effect issues at most one request:
nothing without a motor or without strength, a primitive where the vibrator knows the effect, and a
plain pulse of the effect's length everywhere else.

- `Vibrator.plan?` is the request that an effect comes to;
- `Vibrator.provide` issues it and hands back its result;
- `Vibrator.rumble` plays the rumble effect and keeps a failure to itself.
-/

namespace InputHub

/-- What a request left behind: its result, the state after it and what was logged. -/
structure Reply (σ : Type) where
  result : Except Error Unit
  state : σ
  notices : List Notice

/-- A vibrator over states `σ`: whether there is a motor, whether its strength can be set, which
effects it plays as primitives, and what a request does. -/
structure Vibrator (σ : Type) where
  present : Bool
  amplitudeControl : Bool
  supports : Effect → Bool
  perform : Request → σ → Reply σ

namespace Vibrator

/-- The error of a vibrator that knows no primitives. -/
def noPrimitive (e : Effect) : Error :=
  .notSupported ("haptic primitive " ++ e.name ++ " is not supported by this vibrator")

/-- The strength to play at: none at or below zero and for NaN, at most one. -/
def strength? (x : Binary32) : Option Binary32 :=
  if x.isNaN || x.isNegative || x.isZero then none
  else if Binary32.one.magnitude < x.magnitude then some .one
  else some x

/-- The level out of 255 for a strength up to one. The product with 255 is rounded to single
precision, then to the nearest whole number with halves up; a strength is never silent. -/
def level (x : Binary32) : UInt8 :=
  let v := x.abs
  let product := Format.single.nearest (255 * v.num) v.den
  UInt8.ofNat (max 1 (min 255 (Rounding.halfUp product.num product.den)))

variable {σ : Type} (v : Vibrator σ)

/-- The request that an effect at some intensity comes to. -/
def plan? (e : Effect) (intensity : Binary32) : Option Request :=
  if v.present then
    (strength? intensity).map fun s =>
      if v.supports e then .primitive e s
      else .oneShot e.fallbackMs (if v.amplitudeControl then .level (level s) else .standard)
  else none

/-- Plays an effect: issues its request, if it has one. -/
def provide (e : Effect) (intensity : Binary32) (s : σ) : Reply σ :=
  match v.plan? e intensity with
  | some r => v.perform r s
  | none => ⟨.ok (), s, if v.present then [] else [.noMotor e]⟩

/-- Plays one rumble pulse; a failure is only logged. -/
def rumble (s : σ) : Reply σ :=
  let reply := v.provide .rumble rumbleIntensity s
  match reply.result with
  | .ok () => reply
  | .error e => ⟨.ok (), reply.state, reply.notices ++ [.rumbleFailed e]⟩

end Vibrator

end InputHub
