/-!
# Device changes

What a platform tells its listeners about one device.
-/

namespace InputHub

/-- A device was attached, detached or described anew. -/
inductive Change where
  | added
  | removed
  | changed
  deriving DecidableEq

/-- The name of a change, as notices show it. -/
def Change.name : Change → String
  | added => "Added"
  | removed => "Removed"
  | changed => "Changed"

end InputHub
