import InputHub.Binary.Binary32

/-!
# Haptic effects and requests

The effects a core may ask for, how long each lasts on a motor that can only buzz, and the requests
that reach a motor.
-/

namespace InputHub

/-- A named haptic effect. -/
inductive Effect where
  | click
  | thud
  | spin
  | quickRise
  | slowRise
  | quickFall
  | tick
  | lowTick
  deriving DecidableEq

namespace Effect

/-- The name of an effect, as notices and errors show it. -/
def name : Effect → String
  | click => "Click"
  | thud => "Thud"
  | spin => "Spin"
  | quickRise => "QuickRise"
  | slowRise => "SlowRise"
  | quickFall => "QuickFall"
  | tick => "Tick"
  | lowTick => "LowTick"

/-- Every effect. -/
def all : List Effect :=
  [click, thud, spin, quickRise, slowRise, quickFall, tick, lowTick]

/-- The effect of a name. -/
def ofName? (s : String) : Option Effect :=
  all.find? fun e => e.name = s

/-- The milliseconds a plain pulse lasts that stands in for an effect. -/
def fallbackMs : Effect → Nat
  | click => 20
  | thud => 50
  | spin => 100
  | quickRise => 40
  | slowRise => 120
  | quickFall => 40
  | tick => 10
  | lowTick => 15

/-- The effect that a rumble request plays. -/
def rumble : Effect := spin

end Effect

/-- The intensity that a rumble request plays at. -/
def rumbleIntensity : Binary32 := .half

/-- How strong a pulse is: as the motor likes, or a level out of 255. -/
inductive Amplitude where
  | standard
  | level (value : UInt8)
  deriving DecidableEq

/-- What a motor may be asked for. -/
inductive Request where
  | primitive (effect : Effect) (scale : Binary32)
  | oneShot (ms : Nat) (amplitude : Amplitude)
  | cancel
  deriving DecidableEq

end InputHub
