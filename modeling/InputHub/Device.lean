import InputHub.Capabilities
import InputHub.Qualifier
import InputHub.Text.Quoted

/-!
# Devices

A platform describes each attached device; the registry gives the description a qualifier and keeps
it as a device. Motors are named by number; what stands behind a number is the host's business.
-/

namespace InputHub

/-- The number of a motor. -/
abbrev MotorId := Nat

/-- How a device vibrates: through one motor, or through a manager of several numbered ones. -/
inductive VibrationSource where
  | single (motor : MotorId)
  | manager (motors : List (Int32 × MotorId))
  deriving DecidableEq

namespace VibrationSource

/-- The text shown for a source. -/
def describe : VibrationSource → String
  | single _ => "VibrationSource::Vibrator"
  | manager motors =>
    "VibrationSource::Manager \x7b ids: "
      ++ Text.bracketed (motors.map fun m => Numeral.ofInt m.1.toInt) ++ " \x7d"

/-- The numbers under which vibrators can be asked for. A single motor has number 0, if it is
there. -/
def ids (present : MotorId → Bool) : VibrationSource → List Int32
  | single motor => if present motor then [0] else []
  | manager motors => motors.map Prod.fst

/-- The motor under a number; of two with the same number the first. -/
def motor? (present : MotorId → Bool) (id : Int32) : VibrationSource → Option MotorId
  | single motor => if id = 0 ∧ present motor then some motor else none
  | manager motors => (motors.find? fun m => m.1 = id).map Prod.snd

end VibrationSource

/-- What manages the vibrators of a device or of the system: the numbers that it gives, and the
motors behind numbers. -/
structure VibratorManager where
  ids : List Int32
  motor? : Int32 → Option MotorId

/-- The manager that a vibration source comes to. -/
def VibrationSource.toManager (present : MotorId → Bool) (source : VibrationSource) :
    VibratorManager :=
  ⟨source.ids present, fun id => source.motor? present id⟩

/-- A device as its platform describes it. -/
structure Descriptor where
  platformId : Int32
  source : String
  name : String
  capabilities : Capabilities
  sensorAxes : List String
  vibration : Option VibrationSource
  deriving DecidableEq

namespace Descriptor

/-- A device without capabilities. -/
def bare (platformId : Int32) (source name : String) : Descriptor :=
  ⟨platformId, source, name, .none, [], none⟩

/-- The device with more capabilities. -/
def withCapabilities (d : Descriptor) (c : Capabilities) : Descriptor :=
  { d with capabilities := d.capabilities.union c }

/-- The device with more sensor axes, after those it has; it is a sensor from then on. -/
def withSensorAxes (d : Descriptor) (axes : List String) : Descriptor :=
  { d with
    sensorAxes := d.sensorAxes ++ axes
    capabilities := d.capabilities.union .sensors }

/-- The device with a vibration source in place of the one it has; it can vibrate from then on. -/
def withVibration (d : Descriptor) (v : VibrationSource) : Descriptor :=
  { d with
    vibration := some v
    capabilities := d.capabilities.union .vibration }

end Descriptor

/-- A registered device. -/
structure Device where
  qualifier : Qualifier
  platformId : Int32
  capabilities : Capabilities
  sensorAxes : List String
  vibration : Option VibrationSource
  deriving DecidableEq

namespace Device

/-- The device that a description makes under a qualifier. -/
def ofDescriptor (d : Descriptor) (q : Qualifier) : Device :=
  ⟨q, d.platformId, d.capabilities, d.sensorAxes, d.vibration⟩

/-- Whether the device has all the given capabilities. -/
def hasCapability (d : Device) (c : Capabilities) : Bool := d.capabilities.contains c

/-- The manager of the device's vibrators, if it can vibrate. -/
def manager? (present : MotorId → Bool) (d : Device) : Option VibratorManager :=
  d.vibration.map (·.toManager present)

end Device

end InputHub
