import InputHub.Hub.Basic

/-!
# Routing

Events and samples on their way from the host to the core. An event is handed over with the device
that the current snapshot has under its platform id.
-/

namespace InputHub.Hub

/-- Hands a key event to the core and tells whether it took it. -/
def dispatchKey (h : Hub) (e : KeyEvent) : Hub × Bool :=
  let device := h.snapshot.getById? e.deviceId
  let consumed := h.core.takesKey device
  ({ h with core := h.core.record (.key device e) }.note [.keyRouted e consumed], consumed)

/-- Hands a motion event to the core and tells whether it took it. -/
def dispatchMotion (h : Hub) (e : MotionEvent) : Hub × Bool :=
  let device := h.snapshot.getById? e.deviceId
  let consumed := h.core.takesMotion device e
  ({ h with core := h.core.record (.motion device e) }.note [.motionRouted e consumed], consumed)

/-- Hands a sample to the core and tells whether it wants more of them. -/
def dispatchSample (h : Hub) (device axis : String) (value : Binary32) : Hub × Bool :=
  let wanted := h.core.takesSample device axis
  ({ h with core := h.core.record (.sample device axis value) }.note
    [.sampleRouted device axis value wanted], wanted)

/-- Tells core and platform that the sampling of some axes was suspended or resumed. -/
def notifySampling (h : Hub) (device : String) (axes : List String) (suspended : Bool) : Hub :=
  { h with
    core := h.core.record (.sampling device axes suspended)
    platform := h.platform.setSuspended device axes suspended }.note
    [.samplingChanged device axes suspended]

end InputHub.Hub
