import InputHub.Hub.Rescan

/-!
# The hotplug listener

While the listener is registered, every change of the platform's devices is posted to a worker that
rescans. Registering starts the worker, unregistering stops it.
-/

namespace InputHub.Hub

/-- The error of every attempt after registering broke off. -/
def poisonedRegistration : Error := .thread "hotplug registration mutex poisoned"

/-- The error of stopping a worker that had crashed. -/
def failedJoin : Error := .thread "failed to join hotplug thread"

/-! ## Changes of the platform -/

/-- Posts a change to a worker; one that has ended drops it. -/
def post (h : Hub) (id : Nat) (change : Change) (device : Int32) : Hub :=
  match h.workers[id]? with
  | some w =>
    if w.isAlive then h.setWorker id (w.post (.rescan change device))
    else h.note [.requestDropped change device]
  | none => h.note [.requestDropped change device]

/-- Tells one listener of a change. -/
def tell (h : Hub) (change : Change) (device : Int32) : Subscriber → Hub
  | .worker id => h.post id change device
  | .outsider => h

/-- Tells every listener of the platform of a change. -/
def tellAll (h : Hub) (change : Change) (device : Int32) : Hub :=
  h.platform.listeners.values.foldl (fun h l => h.tell change device l) h

/-- Lets the registered worker go on. -/
def settleWorker (h : Hub) : Hub :=
  match h.registration with
  | .active _ worker => h.settle worker
  | _ => h

/-- Attaches a device to the platform. -/
def attach (h : Hub) (d : Descriptor) : Hub :=
  ({ h with platform := h.platform.put d }.tellAll .added d.platformId).settleWorker

/-- Describes a device of the platform anew. -/
def change (h : Hub) (d : Descriptor) : Hub :=
  ({ h with platform := h.platform.put d }.tellAll .changed d.platformId).settleWorker

/-- Detaches a device from the platform, if it is there. -/
def detach (h : Hub) (device : Int32) : Hub :=
  if h.platform.devices.contains device then
    ({ h with platform := h.platform.remove device }.tellAll .removed device).settleWorker
  else h

/-! ## Registering -/

/-- Whether a worker ended in a rescan that broke off. -/
def hasCrashed (h : Hub) (id : Nat) : Bool :=
  match h.workers[id]? with
  | some w => w.position = .crashed
  | none => false

/-- Asks a worker to quit, unless it has ended. -/
def askToQuit (h : Hub) (id : Nat) : Hub :=
  match h.workers[id]? with
  | some w => if w.isAlive then h.setWorker id (w.post .quit) else h
  | none => h

/-- Asks a worker to quit, lets it go if the core holds it up, and waits for its end. -/
def stopWorker (h : Hub) (id : Nat) : Hub × Except Error Unit :=
  let h := (h.askToQuit id).letGo.settle id
  (h, if h.hasCrashed id then .error failedJoin else .ok ())

/-- Starts a worker. -/
def startWorker (h : Hub) : Nat × Hub :=
  (h.nextWorker, { h.setWorker h.nextWorker .fresh with nextWorker := h.nextWorker + 1 })

/-- Registers the hotplug listener and rescans at once, if the hub is set so. A listener that is
registered already stays, and nothing else happens. When the platform refuses the listener its
worker is stopped again. The error of the first rescan is handed on with the listener left
registered. -/
def register (h : Hub) : Hub × Verdict :=
  match h.registration with
  | .poisoned => (h, .failed poisonedRegistration)
  | .active .. => (h.note [.alreadyRegistered], .done)
  | .absent =>
    if h.config.workerName.toList.contains '\x00' then
      ({ h with registration := .poisoned }, .broken)
    else
      let (worker, h) := h.startWorker
      match h.listenFault with
      | some e =>
        match h.stopWorker worker with
        | (h, .ok ()) => (h, .failed e)
        | (h, .error e) => (h, .failed e)
      | none =>
        let (listener, platform) := h.platform.listen (.worker worker)
        let h := { h with platform, registration := .active listener worker }.note
          [.registered h.config.workerName]
        if h.config.refreshOnRegister then h.refresh .caller else (h, .done)

/-- Unregisters the hotplug listener and stops its worker. A platform that does not let go of the
listener is reported after the worker has stopped. -/
def unregister (h : Hub) : Hub × Verdict :=
  match h.registration with
  | .poisoned => (h, .failed poisonedRegistration)
  | .absent => (h, .done)
  | .active listener worker =>
    let h := { h with registration := .absent }
    let h := match h.unlistenFault with
      | some _ => h
      | none => { h with platform := h.platform.unlisten listener }
    match h.stopWorker worker with
    | (h, .error e) => (h, .failed e)
    | (h, .ok ()) =>
      match h.unlistenFault with
      | some e => (h, .failed e)
      | none => (h.note [.unregistered], .done)

/-- Gives the hub up: the listener is unregistered, whatever comes of it. -/
def close (h : Hub) : Hub :=
  match h.registration with
  | .active .. => h.unregister.1
  | _ => h

/-- Lets a worker go on that the core holds up and tells whether there was one. The core holds up
none from then on. -/
def release (h : Hub) : Hub × Bool :=
  ({ h.letGo with core := { h.core with holding := false } }.settleWorker, h.isHeldUp)

end InputHub.Hub
