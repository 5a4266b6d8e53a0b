import InputHub.Device
import InputHub.Haptics.Motor

/-!
# Racks of motors

The recording motors of a host by their numbers, and rumble requests that find their motor through a
vibration source.
-/

namespace InputHub

/-- The motors of a host; the number of a motor is its place. -/
structure Rack where
  motors : List Motor

/-- What became of a rumble request. -/
inductive RumbleOutcome where
  | played
  | noSource
  | noVibrator
  deriving DecidableEq

namespace Rack

/-- Whether there is a motor behind a vibrator. -/
def present (r : Rack) (m : MotorId) : Bool :=
  match r.motors[m]? with
  | some motor => motor.build.present
  | none => false

/-- Every request that a motor took. -/
def played (r : Rack) (m : MotorId) : List Request :=
  match r.motors[m]? with
  | some motor => motor.played
  | none => []

/-- Plays one rumble pulse on a motor. -/
def rumble (r : Rack) (m : MotorId) : Rack × List Notice :=
  match r.motors[m]? with
  | some motor =>
    let reply := motor.vibrator.rumble motor
    (⟨r.motors.set m reply.state⟩, reply.notices)
  | none => (r, [])

/-- Plays one rumble pulse on a vibrator of a source. -/
def rumbleOn (r : Rack) (source : Option VibrationSource) (id : Int32) :
    Rack × List Notice × RumbleOutcome :=
  match source.map (·.toManager r.present) with
  | none => (r, [], .noSource)
  | some manager =>
    match manager.motor? id with
    | none => (r, [], .noVibrator)
    | some m =>
      let (r, notices) := r.rumble m
      (r, notices, .played)

end Rack

end InputHub
