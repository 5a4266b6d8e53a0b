/-!
# Configuration

The settings of a hub.
-/

namespace InputHub

/-- The name of the hotplug worker and whether registering the listener rescans at once. -/
structure Config where
  workerName : String
  refreshOnRegister : Bool
  deriving DecidableEq

/-- The settings of a hub that was given none. -/
def Config.standard : Config := ⟨"Hotplug thread", true⟩

end InputHub
