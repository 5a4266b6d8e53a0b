import InputHub.Haptics.Vibrator

/-!
# Recording motors

Motors that live in memory and keep every request that they took.
-/

namespace InputHub

/-- How a recording motor is built. -/
inductive Motor.Build where
  /-- All or no primitives; a failing motor rejects what it would otherwise keep. -/
  | plain (present primitives amplitudeControl failing : Bool)
  /-- A motor that buzzes and can do nothing else. -/
  | buzzer
  /-- A motor with the given primitives; it takes any pulse or primitive unless it has a failure. -/
  | custom (present amplitudeControl : Bool) (primitives : List Effect) (failure : Option Error)

/-- A recording motor with the requests it took so far. -/
structure Motor where
  build : Motor.Build
  played : List Request

namespace Motor

/-- A motor that took no request yet. -/
def ofBuild (b : Build) : Motor := ⟨b, []⟩

/-- A motor with primitives and amplitude control. -/
def Build.rich : Build := .plain true true true false

/-- A motor for plain pulses. -/
def Build.basic : Build := .plain true false false false

/-- A vibrator without a motor behind it. -/
def Build.absent : Build := .plain false false false false

/-- The same motor with or without amplitude control. -/
def Build.withAmplitudeControl : Build → Bool → Build
  | .plain present primitives _ failing, b => .plain present primitives b failing
  | .custom present _ primitives failure, b => .custom present b primitives failure
  | .buzzer, _ => .buzzer

/-- The same motor, rejecting every request. -/
def Build.failing : Build → Build
  | .plain present primitives amplitudeControl _ => .plain present primitives amplitudeControl true
  | b => b

/-- The error of a failing motor. -/
def rejection : Error := .platform "vibrator rejected the request"

/-- Keeps a request. -/
def record (m : Motor) (r : Request) : Motor := { m with played := m.played ++ [r] }

/-- What a request comes to on a motor. -/
def perform (r : Request) (m : Motor) : Reply Motor :=
  match m.build with
  | .plain _ primitives _ failing =>
    match r, primitives with
    | .primitive e _, false => ⟨.error (.notSupported ("primitive " ++ e.name)), m, []⟩
    | _, _ => if failing then ⟨.error rejection, m, []⟩ else ⟨.ok (), m.record r, []⟩
  | .buzzer =>
    match r with
    | .primitive e _ => ⟨.error (Vibrator.noPrimitive e), m, []⟩
    | .oneShot .. => ⟨.ok (), m.record r, []⟩
    | .cancel => ⟨.ok (), m, []⟩
  | .custom _ _ _ failure =>
    match r, failure with
    | .cancel, _ => ⟨.ok (), m, []⟩
    | _, some e => ⟨.error e, m, []⟩
    | _, none => ⟨.ok (), m.record r, []⟩

/-- Whether there is a motor at all. -/
def Build.present : Build → Bool
  | .plain present .. => present
  | .buzzer => true
  | .custom present .. => present

/-- A motor as a vibrator. -/
def Build.vibrator (b : Build) : Vibrator Motor where
  present := b.present
  amplitudeControl := match b with
    | .plain _ _ amplitudeControl _ => amplitudeControl
    | .buzzer => false
    | .custom _ amplitudeControl _ _ => amplitudeControl
  supports e := match b with
    | .plain _ primitives _ _ => primitives
    | .buzzer => false
    | .custom _ _ primitives _ => primitives.contains e
  perform := perform

/-- The vibrator of a motor. -/
def vibrator (m : Motor) : Vibrator Motor := m.build.vibrator

end Motor

end InputHub
