import InputHub.Notice

/-!
# The hotplug worker

A worker takes requests to rescan from a queue. It takes one, drops all others that wait behind it,
and rescans once for all of them; a request to quit ends it wherever it is found.

`Worker.step?` is one move of the worker on its queue. Rescanning itself takes place outside,
between the moves that start and finish it.
-/

namespace InputHub

/-- What waits on a worker's queue. -/
inductive Message where
  | rescan (change : Change) (id : Int32)
  | quit
  deriving DecidableEq

/-- Where a worker stands. -/
inductive Position where
  /-- Waiting for a message. -/
  | waiting
  /-- Dropping the requests that wait behind the one it took. -/
  | draining
  | rescanning
  /-- Ended as it was asked to. -/
  | exited
  /-- Ended by a rescan that broke off. -/
  | crashed
  deriving DecidableEq

/-- A worker with its queue. -/
structure Worker where
  queue : List Message
  position : Position
  deriving DecidableEq

namespace Worker

/-- A worker that has just started. -/
def fresh : Worker := ⟨[], .waiting⟩

/-- Whether messages still reach the worker. -/
def isAlive (w : Worker) : Bool :=
  match w.position with
  | .exited | .crashed => false
  | _ => true

/-- The worker with one more message at the end of its queue. -/
def post (w : Worker) (m : Message) : Worker := { w with queue := w.queue ++ [m] }

/-- The worker's next move, if it can make one by itself, and what it logs. A worker that has ended
keeps no messages. -/
def step? (w : Worker) : Option (Worker × List Notice) :=
  match w.position, w.queue with
  | .waiting, .rescan change id :: q => some (⟨q, .draining⟩, [.requestTaken change id])
  | .draining, .rescan _ _ :: q => some (⟨q, .draining⟩, [])
  | .draining, [] => some (⟨[], .rescanning⟩, [])
  | .waiting, .quit :: _ => some (⟨[], .exited⟩, [.workerExiting])
  | .draining, .quit :: _ => some (⟨[], .exited⟩, [.workerExiting])
  | _, _ => none

/-- The worker after a rescan. -/
def resume (w : Worker) : Worker := { w with position := .waiting }

/-- The worker after a rescan that broke off. -/
def crash (_ : Worker) : Worker := ⟨[], .crashed⟩

end Worker

end InputHub
