import InputHub.EventNodes.Errno
import InputHub.Haptics.Vibrator

/-!
# Rumble motors of event nodes

A pulse is an effect that is uploaded to the device and then played. The vibrator keeps the effect
while it may be playing and erases it before it uploads the next one.
-/

namespace InputHub.EventNodes

/-- What is asked of a device. Effects are numbered from 0 on, in the order in which the device took
them. -/
inductive DeviceCall where
  /-- An effect is uploaded: how long it lasts and how strong both motors are. -/
  | upload (length magnitude : Nat)
  /-- An uploaded effect is played. -/
  | play (effect : Nat)
  /-- An uploaded effect is stopped. -/
  | stop (effect : Nat)
  /-- An uploaded effect is erased. -/
  | erase (effect : Nat)
  deriving DecidableEq

/-- A call to a device, and with what it failed if it did. -/
structure Attempt where
  call : DeviceCall
  fault : Option Errno
  deriving DecidableEq

namespace Attempt

/-- The call, if it reached the device. -/
def reached? (a : Attempt) : Option DeviceCall :=
  match a.fault with
  | none => some a.call
  | some _ => none

/-- Whether the device took an effect. -/
def isUpload (a : Attempt) : Bool :=
  match a.reached? with
  | some (.upload ..) => true
  | _ => false

end Attempt

/-- With what the calls to a device fail. -/
structure DeviceFaults where
  upload : Option Errno
  write : Option Errno
  deriving DecidableEq

/-- The rumble motor of one event node. -/
structure Rumble where
  path : String
  /-- The uploaded effect that is kept. -/
  held : Option Nat
  /-- Everything that was asked of the device. -/
  trace : List Attempt

namespace Rumble

/-- A motor without an effect. -/
def fresh (path : String) : Rumble := ⟨path, none, []⟩

/-- The strength of a pulse for both motors. -/
def magnitude : Amplitude → Nat
  | .standard => 0xC000
  | .level value => value.toNat * 257

/-- The longest pulse that a device takes. -/
def longest : Nat := 65535

/-- How many effects the device took so far: the number of the next one. -/
def uploads (r : Rumble) : Nat := r.trace.countP Attempt.isUpload

/-- Asks something of the device, which may fail. -/
def send (r : Rumble) (call : DeviceCall) (fault : Option Errno) : Rumble :=
  { r with trace := r.trace ++ [⟨call, fault⟩] }

/-- Erases the effect that is kept. -/
def drop (r : Rumble) : Rumble :=
  match r.held with
  | some effect => { r.send (.erase effect) none with held := none }
  | none => r

/-- Uploads and plays a pulse, in place of the effect that is kept. An effect that cannot be played
is erased again. Of a failed upload only numbers with a meaning are known. -/
def pulse (faults : DeviceFaults) (ms : Nat) (amplitude : Amplitude) (r : Rumble) : Reply Rumble :=
  let r := r.drop
  let effect := r.uploads
  let r := r.send (.upload (min ms longest) (magnitude amplitude)) faults.upload
  match faults.upload with
  | some e => ⟨.error (.io e.known.text), r, []⟩
  | none =>
    let r := r.send (.play effect) faults.write
    match faults.write with
    | some e => ⟨.error (.io e.text), r.send (.erase effect) none, []⟩
    | none =>
      ⟨.ok (), { r with held := some effect }, [.rumbled ms (magnitude amplitude) r.path]⟩

/-- Stops the effect that is kept, and goes on keeping it. -/
def cancel (faults : DeviceFaults) (r : Rumble) : Reply Rumble :=
  match r.held with
  | none => ⟨.ok (), r, []⟩
  | some effect =>
    let r := r.send (.stop effect) faults.write
    match faults.write with
    | some e => ⟨.error (.io e.text), r, []⟩
    | none => ⟨.ok (), r, []⟩

/-- A rumble motor as a vibrator: its strength can be set, and it knows no primitives. -/
def vibrator (faults : DeviceFaults) : Vibrator Rumble where
  present := true
  amplitudeControl := true
  supports _ := false
  perform
    | .primitive e _, r => ⟨.error (Vibrator.noPrimitive e), r, []⟩
    | .oneShot ms amplitude, r => r.pulse faults ms amplitude
    | .cancel, r => r.cancel faults

end Rumble

end InputHub.EventNodes
