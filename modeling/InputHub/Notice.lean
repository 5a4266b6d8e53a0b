import InputHub.Change
import InputHub.Decimal.Layout
import InputHub.Error
import InputHub.Event
import InputHub.Haptics.Effect
import InputHub.Text.Quoted

/-!
# Notices

Everything the hub writes to its log, as data: each notice has a level and one wording.
-/

namespace InputHub

/-- How much a notice matters. -/
inductive Level where
  | error
  | warn
  | info
  | debug
  | trace
  deriving DecidableEq

/-- The name of a level. -/
def Level.name : Level → String
  | error => "ERROR"
  | warn => "WARN"
  | info => "INFO"
  | debug => "DEBUG"
  | trace => "TRACE"

/-- Something worth telling about. -/
inductive Notice where
  /-- A device list names an id again. -/
  | repeatedId (id : Int32) (name : String)
  | attached (key : String)
  | detached (key : String)
  | rebuilt (generation devices : Nat)
  | keyRouted (event : KeyEvent) (consumed : Bool)
  | motionRouted (event : MotionEvent) (consumed : Bool)
  | sampleRouted (device axis : String) (value : Binary32) (wanted : Bool)
  | samplingChanged (device : String) (axes : List String) (suspended : Bool)
  | alreadyRegistered
  | registered (worker : String)
  | unregistered
  | requestTaken (change : Change) (id : Int32)
  | requestDropped (change : Change) (id : Int32)
  | rescanFailed (error : Error)
  | workerExiting
  | noMotor (effect : Effect)
  | rumbleFailed (error : Error)
  | openFailed (path reason : String)
  | watching (directory : String)
  | watchFailed (reason : String)
  | rumbled (ms magnitude : Nat) (path : String)
  deriving DecidableEq

namespace Notice

/-- Numbers in notices are written out in full, and a tie goes up. -/
def numbers : Decimal.Layout := ⟨.up, none, false⟩

/-- The text of a single-precision number in a notice. -/
def number (x : Binary32) : String :=
  if x.isNaN then "NaN"
  else if x.isSpecial then (if x.isNegative then "-inf" else "inf")
  else numbers.finite x

/-- A duration in seconds with as many places as it needs, or in milliseconds below one second. -/
def duration (ms : Nat) : String :=
  if ms = 0 then "0ns"
  else if ms < 1000 then Numeral.ofNat ms ++ "ms"
  else
    let places := (Numeral.ofNat (1000 + ms % 1000)).toList.drop 1
    let kept := (places.reverse.dropWhile (· = '0')).reverse
    Numeral.ofNat (ms / 1000) ++ String.ofList (if kept.isEmpty then [] else '.' :: kept) ++ "s"

/-- A truth value in a notice. -/
def answer (b : Bool) : String := if b then "true" else "false"

/-- The level of a notice. -/
def level : Notice → Level
  | rescanFailed .. => .error
  | repeatedId .. | rumbleFailed .. | watchFailed .. => .warn
  | attached .. | detached .. | registered .. | unregistered => .info
  | keyRouted .. | motionRouted .. | sampleRouted .. => .trace
  | _ => .debug

/-- The wording of a notice. -/
def text : Notice → String
  | repeatedId id name =>
    "platform reported device id " ++ Numeral.ofInt id.toInt ++ " twice, ignoring '" ++ name ++ "'"
  | attached key => "device attached: " ++ key
  | detached key => "device detached: " ++ key
  | rebuilt generation devices =>
    "registry rebuilt: generation " ++ Numeral.ofNat generation ++ ", " ++ Numeral.ofNat devices
      ++ " device(s)"
  | keyRouted e consumed =>
    "key " ++ Numeral.ofNat e.keyCode.toNat ++ " " ++ e.action.name ++ " from device "
      ++ Numeral.ofInt e.deviceId.toInt ++ " -> " ++ answer consumed
  | motionRouted e consumed =>
    "motion (" ++ Numeral.ofNat e.axes.length ++ " axes) from device "
      ++ Numeral.ofInt e.deviceId.toInt ++ " -> " ++ answer consumed
  | sampleRouted device axis value wanted =>
    "sensor " ++ device ++ " " ++ axis ++ " = " ++ number value ++ " -> " ++ answer wanted
  | samplingChanged device axes suspended =>
    "sensor axes " ++ Text.bracketed (axes.map fun a => "AxisName(" ++ Text.quote a ++ ")")
      ++ " of " ++ device ++ (if suspended then " suspended" else " resumed")
  | alreadyRegistered => "hotplug listener already registered"
  | registered worker => "hotplug listener registered on '" ++ worker ++ "'"
  | unregistered => "hotplug listener unregistered"
  | requestTaken change id => "hotplug " ++ change.name ++ " for device " ++ Numeral.ofInt id.toInt
  | requestDropped change id =>
    "hotplug thread gone, dropping " ++ change.name ++ " for device " ++ Numeral.ofInt id.toInt
  | rescanFailed e => "device rescan failed: " ++ e.message
  | workerExiting => "hotplug thread exiting"
  | noMotor effect => "no vibrator present, skipping " ++ effect.name
  | rumbleFailed e => "rumble request failed: " ++ e.message
  | openFailed path reason => "Failed to open " ++ path ++ ": " ++ reason
  | watching directory => "watching " ++ directory ++ " for input devices"
  | watchFailed reason => "input directory watch error: " ++ reason
  | rumbled ms magnitude path =>
    "rumble " ++ duration ms ++ " at " ++ Numeral.ofNat magnitude ++ " on " ++ path

/-- A line of the log. -/
def line (n : Notice) : String := n.level.name ++ " " ++ n.text

end Notice

end InputHub
