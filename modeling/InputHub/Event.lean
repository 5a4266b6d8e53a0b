import InputHub.Binary.Binary32

/-!
# Input events

Key and motion events as a host delivers them: with the platform id of the device they come from and
the time at which they arose.
-/

namespace InputHub

/-- What happened to a key. -/
inductive KeyAction where
  | down
  | up
  | multiple
  deriving DecidableEq

namespace KeyAction

/-- The name of an action. -/
def name : KeyAction → String
  | down => "Down"
  | up => "Up"
  | multiple => "Multiple"

/-- Every action. -/
def all : List KeyAction := [down, up, multiple]

/-- The action of a name. -/
def ofName? (s : String) : Option KeyAction :=
  all.find? fun a => a.name = s

end KeyAction

/-- The kind of device a motion event comes from. -/
inductive InputSource where
  | gamepad
  | joystick
  | touchscreen
  | mouse
  | keyboard
  | unknown (code : UInt32)
  deriving DecidableEq

/-- A moment in whole seconds and nanoseconds after the epoch. -/
structure Instant where
  seconds : Nat
  nanos : Nat
  seconds_lt : seconds < 0x8000000000000000 := by decide
  nanos_lt : nanos < 1000000000 := by decide
  deriving DecidableEq

namespace Instant

/-- The start of the count. -/
def epoch : Instant := { seconds := 0, nanos := 0 }

/-- The moment after the given seconds and nanoseconds, with whole seconds among the nanoseconds
carried over; there is none past `2 ^ 63` seconds. -/
def ofParts? (seconds nanos : Nat) : Option Instant :=
  if h : seconds + nanos / 1000000000 < 0x8000000000000000 then
    some ⟨seconds + nanos / 1000000000, nanos % 1000000000, h, Nat.mod_lt _ (by decide)⟩
  else none

end Instant

/-- A key or button event. -/
structure KeyEvent where
  deviceId : Int32
  keyCode : UInt32
  action : KeyAction
  repeatCount : UInt32
  metaState : UInt32
  time : Instant
  deriving DecidableEq

namespace KeyEvent

/-- An event without repetition or held modifiers. -/
def single (deviceId : Int32) (keyCode : UInt32) (action : KeyAction) (time : Instant) : KeyEvent :=
  ⟨deviceId, keyCode, action, 0, 0, time⟩

/-- A key going down. -/
def down (deviceId : Int32) (keyCode : UInt32) (time : Instant) : KeyEvent :=
  single deviceId keyCode .down time

/-- A key going up. -/
def up (deviceId : Int32) (keyCode : UInt32) (time : Instant) : KeyEvent :=
  single deviceId keyCode .up time

end KeyEvent

/-- The position of one axis. -/
structure AxisValue where
  axis : UInt32
  value : Binary32
  deriving DecidableEq

/-- A motion event with the positions of some axes. -/
structure MotionEvent where
  deviceId : Int32
  source : InputSource
  axes : List AxisValue
  time : Instant
  deriving DecidableEq

namespace MotionEvent

/-- An event without axes. -/
def still (deviceId : Int32) (source : InputSource) (time : Instant) : MotionEvent :=
  ⟨deviceId, source, [], time⟩

/-- The event with one more axis, after those it has. -/
def withAxis (e : MotionEvent) (axis : UInt32) (value : Binary32) : MotionEvent :=
  { e with axes := e.axes ++ [⟨axis, value⟩] }

/-- The position of an axis; the first entry of an axis counts. -/
def axisValue? (e : MotionEvent) (axis : UInt32) : Option Binary32 :=
  (e.axes.find? fun a => a.axis = axis).map AxisValue.value

end MotionEvent

end InputHub
