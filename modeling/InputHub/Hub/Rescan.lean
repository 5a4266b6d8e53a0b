import InputHub.Hub.Basic

/-!
# Rescans

A rescan lists the platform's devices, installs the next snapshot, tells the core and then the
subscribers. Only one is under way at a time. A failed listing ends it without a trace.

- `Hub.advance` takes the rescan under way one stage further;
- `Hub.workerStep?` is one step of a hotplug worker, on its queue or in its rescan;
- `Hub.refresh` runs a whole rescan, `Hub.settle` lets a worker go on until it waits.
-/

namespace InputHub.Hub

/-- Starts a rescan, if none is under way. -/
def begin? (h : Hub) (party : Party) : Option Hub :=
  match h.rescan with
  | some _ => none
  | none => some { h with rescan := some ⟨party, .enumerate⟩ }

/-- Takes the rescan under way one stage further, unless the core holds it up. The verdict is given
when it has ended. -/
def advance (h : Hub) : Hub × Option Verdict :=
  match h.rescan with
  | none => (h, none)
  | some ⟨party, .enumerate⟩ =>
    let (report, platform) := h.platform.enumerate
    match report with
    | .ok found => ({ h with platform, rescan := some ⟨party, .install found⟩ }, none)
    | .error e => ({ h with platform, rescan := none }, some (.failed e))
  | some ⟨party, .install found⟩ =>
    ({ h with
      snapshot := h.snapshot.rebuild found
      rescan := some ⟨party, .announce⟩ }.note (h.snapshot.rebuildNotices found), none)
  | some ⟨party, .announce⟩ =>
    let core := h.core.record (.devicesChanged h.snapshot party)
    if core.breaks then
      ({ h with core := { core with breaking := false }, rescan := none }, some .broken)
    else if core.holds party then
      ({ h with core := { core with holding := false }, rescan := some ⟨party, .held⟩ }, none)
    else ({ h with core, rescan := some ⟨party, .publish⟩ }, none)
  | some ⟨_, .held⟩ => (h, none)
  | some ⟨_, .publish⟩ =>
    ({ h with
      published := h.snapshot.generation
      publications := h.publications + 1
      rescan := none }, some .done)

/-- Runs the rescan under way to its end. -/
def finish (h : Hub) : (stages : Nat) → Hub × Verdict
  | 0 => (h, .blocked)
  | n + 1 =>
    match h.advance with
    | (h, some v) => (h, v)
    | (h, none) => finish h n

/-- The number of stages of a rescan. -/
def stages : Nat := 4

/-- Rescans the platform. -/
def refresh (h : Hub) (party : Party) : Hub × Verdict :=
  match h.begin? party with
  | none => (h, .blocked)
  | some h => h.finish stages

/-- Rescans the platform some times, one after the other, and tells whether a rescan broke off; it
is then the last. -/
def refreshTimes (h : Hub) (party : Party) : (times : Nat) → Hub × Bool
  | 0 => (h, false)
  | n + 1 =>
    match h.refresh party with
    | (h, .broken) => (h, true)
    | (h, _) => refreshTimes h party n

/-- Lets some helpers rescan the platform, each some times, and tells whether a rescan of any of
them broke off. -/
def refreshBy (h : Hub) (times : Nat) : (helpers : Nat) → Hub × Bool
  | 0 => (h, false)
  | n + 1 =>
    let (h, broke) := h.refreshTimes .helper times
    let (h, brokeLater) := refreshBy h times n
    (h, broke || brokeLater)

/-! ## Workers -/

/-- Whether the core holds up the rescan under way. -/
def isHeldUp (h : Hub) : Bool :=
  match h.rescan with
  | some ⟨_, .held⟩ => true
  | _ => false

/-- Lets a rescan go on that the core holds up. -/
def letGo (h : Hub) : Hub :=
  match h.rescan with
  | some ⟨party, .held⟩ => { h with rescan := some ⟨party, .publish⟩ }
  | _ => h

/-- Puts a worker in the place of the one with its number. -/
def setWorker (h : Hub) (id : Nat) (w : Worker) : Hub :=
  { h with workers := h.workers.insert id w }

/-- One step of a worker, if it can make one: a move on its queue, or a stage of its rescan. -/
def workerStep? (h : Hub) (id : Nat) : Option Hub :=
  (h.workers[id]?).bind fun w =>
    match w.position with
    | .rescanning =>
      match h.rescan with
      | none => h.begin? (.worker id)
      | some r =>
        if r.party ≠ .worker id ∨ h.isHeldUp then none
        else
          match h.advance with
          | (h, none) => some h
          | (h, some .broken) => some (h.setWorker id w.crash)
          | (h, some (.failed e)) => some ((h.note [.rescanFailed e]).setWorker id w.resume)
          | (h, some _) => some (h.setWorker id w.resume)
    | _ => w.step?.map fun (w, ns) => (h.note ns).setWorker id w

/-- Lets a worker make up to `n` steps. -/
def runWorker (h : Hub) (id : Nat) : (n : Nat) → Hub
  | 0 => h
  | n + 1 =>
    match h.workerStep? id with
    | none => h
    | some h => runWorker h id n

/-- Lets a worker go on until it waits, is held up or has ended. One message takes one step;
besides, a worker may end one rescan, stop draining, and start and run another rescan. -/
def settle (h : Hub) (id : Nat) : Hub :=
  match h.workers[id]? with
  | none => h
  | some w => h.runWorker id (w.queue.length + 2 * stages + 2)

end InputHub.Hub
