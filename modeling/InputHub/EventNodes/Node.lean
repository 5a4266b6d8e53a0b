import InputHub.Device
import InputHub.Text.Cut

/-!
# Event nodes

The files of an input directory that stand for devices. The platform id of a device is the number in
the name of its node; what the kernel says of it becomes its description.
-/

namespace InputHub.EventNodes

/-- The source of every device of an input directory. -/
def source : String := "evdev"

/-- Where event nodes are kept. -/
def standardDirectory : String := "/dev/input"

/-- The number in the name of an event node. -/
def nodeNumber? (name : String) : Option Int32 :=
  match name.toList with
  | 'e' :: 'v' :: 'e' :: 'n' :: 't' :: digits => Numeral.int32? digits
  | _ => none

/-- What the kernel says of a device: its name, which may be empty, and the codes of what it has, of
each kind only if it has that kind at all. -/
structure Facts where
  name : String
  keys : Option (List Nat)
  axes : Option (List Nat)
  effects : Option (List Nat)
  properties : List Nat

namespace Facts

/-- The property of accelerometers. -/
def accelerometer : Nat := 6

/-- The force-feedback effect of rumble motors. -/
def rumbleEffect : Nat := 80

/-- The absolute axes that a sensor may have, in ascending order of their codes. -/
def sensorAxes : List (Nat × String) :=
  [(0, "x"), (1, "y"), (2, "z"), (3, "rx"), (4, "ry"), (5, "rz")]

/-- The number of bytes that the kernel gives of a name. -/
def nameBytes : Nat := 255

/-- The number of key codes; codes from it on stand for no key. -/
def keyCodes : Nat := 768

/-- The number of absolute axes; codes from it on stand for no axis. -/
def axisCodes : Nat := 64

/-- The name under which the device is known. -/
def label (f : Facts) : String := if f.name = "" then "unknown" else Text.cut nameBytes f.name

/-- Whether the device has any code below a limit. -/
def hasAnyBelow (limit : Nat) (codes : Option (List Nat)) : Bool :=
  (codes.getD []).any fun c => decide (c < limit)

/-- Whether the device is an accelerometer. -/
def isAccelerometer (f : Facts) : Bool := f.properties.contains accelerometer

/-- Whether the device can rumble. -/
def canRumble (f : Facts) : Bool := (f.effects.getD []).contains rumbleEffect

/-- The capabilities that the codes alone give. -/
def capabilities (f : Facts) : Capabilities :=
  let keys := if hasAnyBelow keyCodes f.keys then Capabilities.keys else .none
  if hasAnyBelow axisCodes f.axes && !f.isAccelerometer then keys.union .motion else keys

/-- The names of the sensor axes that the device has. -/
def axisNames (f : Facts) : List String :=
  (sensorAxes.filter fun a => (f.axes.getD []).contains a.1).map Prod.snd

/-- The description of a device. Its motor, if it has one, is known under the given number. -/
def describe (f : Facts) (id : Int32) (motor : MotorId) : Descriptor :=
  let d := (Descriptor.bare id source f.label).withCapabilities f.capabilities
  let d := if f.isAccelerometer then d.withSensorAxes f.axisNames else d
  if f.canRumble then d.withVibration (.single motor) else d

end Facts

/-- A file of an input directory; only some can be opened as a device. -/
structure Node where
  name : String
  facts : Option Facts

end InputHub.EventNodes
