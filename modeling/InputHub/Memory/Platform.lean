import InputHub.Device
import InputHub.Sampling

/-!
# A platform in memory

A platform whose devices are attached and detached by calls. It keeps its listeners, of whatever
kind `ℓ`, under numbers that are never given twice; how listeners are told of changes is left to the
modules that use it.
-/

namespace InputHub

/-- A platform whose devices live in memory. -/
structure MemoryPlatform (ℓ : Type) where
  devices : Std.TreeMap Int32 Descriptor
  listeners : Std.TreeMap Nat ℓ
  nextListener : Nat
  systemVibration : Option VibrationSource
  sampling : Sampling
  available : Bool
  /-- How often the devices were listed. -/
  enumerations : Nat

namespace MemoryPlatform

variable {ℓ : Type}

/-- A platform without devices and listeners. -/
def empty : MemoryPlatform ℓ := ⟨∅, ∅, 0, none, .all, true, 0⟩

/-- The manager of the system's vibrators, if there are any. -/
def systemManager? (present : MotorId → Bool) (p : MemoryPlatform ℓ) : Option VibratorManager :=
  p.systemVibration.map (·.toManager present)

/-- Attaches a device, in place of one with the same platform id. -/
def put (p : MemoryPlatform ℓ) (d : Descriptor) : MemoryPlatform ℓ :=
  { p with devices := p.devices.insert d.platformId d }

/-- Detaches a device. -/
def remove (p : MemoryPlatform ℓ) (id : Int32) : MemoryPlatform ℓ :=
  { p with devices := p.devices.erase id }

theorem size_remove_lt {p : MemoryPlatform ℓ} {id : Int32} (h : id ∈ p.devices) :
    (p.remove id).devices.size < p.devices.size := by
  have hpos : p.devices.size ≠ 0 := by
    intro h0
    have he : p.devices.isEmpty = true := by
      rw [Std.TreeMap.isEmpty_eq_size_eq_zero, h0]; rfl
    exact absurd h (Std.TreeMap.not_mem_of_isEmpty he)
  have hc : p.devices.contains id = true := Std.TreeMap.contains_iff_mem.2 h
  simp only [remove, Std.TreeMap.size_erase, hc, if_true]
  omega

/-- Makes the platform answer or refuse to list its devices. -/
def setAvailable (p : MemoryPlatform ℓ) (b : Bool) : MemoryPlatform ℓ := { p with available := b }

/-- The error of a platform that is not available. -/
def offline : Error := .serviceUnavailable "memory platform is offline"

/-- Lists the devices in ascending order of their platform ids. -/
def enumerate (p : MemoryPlatform ℓ) : Except Error (List Descriptor) × MemoryPlatform ℓ :=
  if p.available then (.ok p.devices.values, { p with enumerations := p.enumerations + 1 })
  else (.error offline, p)

/-- Adds a listener and tells its number. -/
def listen (p : MemoryPlatform ℓ) (l : ℓ) : Nat × MemoryPlatform ℓ :=
  (p.nextListener,
    { p with
      listeners := p.listeners.insert p.nextListener l
      nextListener := p.nextListener + 1 })

/-- Removes the listener with a number, if there is one. -/
def unlisten (p : MemoryPlatform ℓ) (n : Nat) : MemoryPlatform ℓ :=
  { p with listeners := p.listeners.erase n }

/-- Suspends or resumes the sampling of some axes of a device. -/
def setSuspended (p : MemoryPlatform ℓ) (device : String) (axes : List String) (suspend : Bool) :
    MemoryPlatform ℓ :=
  { p with sampling := p.sampling.set device axes suspend }

end MemoryPlatform

end InputHub
