import InputHub.Config
import InputHub.Hub.Worker
import InputHub.Hub.Core
import InputHub.Memory.Platform

/-!
# The hub

The hub ties one platform to one core: it owns the registry, the hotplug listener with its worker,
and the count of published generations. This module has its state; rescans, the listener and routing
are in the modules beside it.
-/

namespace InputHub

/-- A listener of the hub's platform: the worker it posts to, or somebody else's. -/
inductive Subscriber where
  | worker (id : Nat)
  | outsider
  deriving DecidableEq

/-- How far a rescan got. -/
inductive Stage where
  /-- About to list the platform's devices. -/
  | enumerate
  /-- About to build and install the snapshot of a list. -/
  | install (found : List Descriptor)
  /-- About to tell the core. -/
  | announce
  /-- The core was told and does not return. -/
  | held
  /-- About to tell the subscribers. -/
  | publish

/-- A rescan under way. -/
structure Rescan where
  party : Party
  stage : Stage

/-- The hotplug listener of a hub. -/
inductive Registration where
  | absent
  | active (listener worker : Nat)
  /-- Broken off while it was being registered; no later attempt succeeds. -/
  | poisoned
  deriving DecidableEq

/-- A hub with its platform and its core. -/
structure Hub where
  config : Config
  platform : MemoryPlatform Subscriber
  /-- The error with which the platform refuses listeners. -/
  listenFault : Option Error
  /-- The error with which the platform refuses to let go of listeners. -/
  unlistenFault : Option Error
  core : Core
  snapshot : Snapshot
  /-- The generation last told to subscribers. -/
  published : Nat
  /-- How often subscribers were told. -/
  publications : Nat
  /-- The rescan under way; there is never more than one. -/
  rescan : Option Rescan
  /-- Every worker that was ever started. -/
  workers : Std.TreeMap Nat Worker
  nextWorker : Nat
  registration : Registration
  journal : List Notice

/-- How a request to the hub ended. -/
inductive Verdict where
  | done
  | failed (error : Error)
  /-- Broken off by the core, or by a worker name that no thread can have. -/
  | broken
  /-- Waiting for a rescan that does not go on. -/
  | blocked

/-- What a subscriber knows: how often it had been told when it last looked. -/
structure Subscription where
  seen : Nat

namespace Hub

/-- A hub over an empty platform. -/
def create (config : Config) (core : Core) : Hub where
  config := config
  platform := .empty
  listenFault := none
  unlistenFault := none
  core := core
  snapshot := .initial
  published := 0
  publications := 0
  rescan := none
  workers := ∅
  nextWorker := 0
  registration := .absent
  journal := []

/-- Writes notices to the log. -/
def note (h : Hub) (ns : List Notice) : Hub := { h with journal := h.journal ++ ns }

/-- Whether the hotplug listener is registered. -/
def isRegistered (h : Hub) : Bool :=
  match h.registration with
  | .active .. => true
  | _ => false

/-- A new subscriber, which has seen everything so far. -/
def subscribe (h : Hub) : Subscription := ⟨h.publications⟩

/-- Whether a subscriber was told something since it last looked. -/
def hasNews (h : Hub) (s : Subscription) : Bool := s.seen != h.publications

end Hub

end InputHub
