import InputHub.Snapshot

/-!
# The emulation core

The core that a hub routes to. It is told of every change of the registry, of events with the device
they come from, and of samples and their suspension, and it says which of them it takes.

A core may hold up the worker that tells it of a change, or break off whoever tells it.
-/

namespace InputHub

/-- Who runs a rescan: the caller of the hub, a helper of the caller, or a hotplug worker. -/
inductive Party where
  | caller
  | helper
  | worker (id : Nat)
  deriving DecidableEq

/-- What a core was told. -/
inductive CoreCall where
  | key (device : Option Device) (event : KeyEvent)
  | motion (device : Option Device) (event : MotionEvent)
  | sample (device axis : String) (value : Binary32)
  | sampling (device : String) (axes : List String) (suspended : Bool)
  | devicesChanged (snapshot : Snapshot) (party : Party)

/-- A core with everything it was told. -/
structure Core where
  /-- A silent core takes nothing and keeps no calls. -/
  silent : Bool
  /-- The devices and axes whose samples the core takes. -/
  wanted : List (String × String)
  /-- Whether the core holds up the next worker that tells it of a change; one worker is held up
  once. -/
  holding : Bool
  /-- Whether the core breaks off the next party that tells it of a change. -/
  breaking : Bool
  calls : List CoreCall

namespace Core

/-- Keeps a call. -/
def record (c : Core) (call : CoreCall) : Core :=
  if c.silent then c else { c with calls := c.calls ++ [call] }

/-- Whether the core takes a key event: it knows the device. -/
def takesKey (c : Core) (device : Option Device) : Bool := !c.silent && device.isSome

/-- Whether the core takes a motion event: it knows the device, which moves, and some axis did. -/
def takesMotion (c : Core) (device : Option Device) (e : MotionEvent) : Bool :=
  !c.silent && !e.axes.isEmpty && match device with
    | some d => d.hasCapability .motion
    | none => false

/-- Whether the core takes a sample. -/
def takesSample (c : Core) (device axis : String) : Bool :=
  !c.silent && c.wanted.contains (device, axis)

/-- Whether telling the core of a change breaks off the party that tells it. -/
def breaks (c : Core) : Bool := !c.silent && c.breaking

/-- Whether telling the core of a change holds up a party: only workers are. -/
def holds (c : Core) (party : Party) : Bool :=
  match party with
  | .worker _ => !c.silent && c.holding
  | _ => false

end Core

end InputHub
