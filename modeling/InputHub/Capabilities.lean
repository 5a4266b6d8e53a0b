/-!
# Capability masks

What a device can do, as a set of bits. Bits without a meaning here are kept as they are given.
-/

namespace InputHub

/-- A set of device capabilities. -/
structure Capabilities where
  bits : UInt32
  deriving DecidableEq

namespace Capabilities

/-- No capability. -/
def none : Capabilities := ⟨0⟩

/-- The device reports keys or buttons. -/
def keys : Capabilities := ⟨1⟩

/-- The device reports positions or other axis motion. -/
def motion : Capabilities := ⟨2⟩

/-- The device reports sensor samples. -/
def sensors : Capabilities := ⟨4⟩

/-- The device can vibrate. -/
def vibration : Capabilities := ⟨8⟩

/-- The capabilities of either mask. -/
def union (a b : Capabilities) : Capabilities := ⟨a.bits ||| b.bits⟩

/-- The capabilities of the first mask that are not in the second. -/
def diff (a b : Capabilities) : Capabilities := ⟨a.bits &&& ~~~b.bits⟩

/-- Whether every capability of the second mask is in the first. -/
def contains (a b : Capabilities) : Bool := a.bits &&& b.bits == b.bits

/-- Whether the mask holds no capability. -/
def isEmpty (a : Capabilities) : Bool := a.bits == 0

end Capabilities

end InputHub
