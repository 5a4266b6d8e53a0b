/-!
# Errors

What can go wrong between a host platform, its devices and the hub that routes them, and the one
wording of each cause.
-/

namespace InputHub

/-- A failed request by cause. Each cause carries the detail that is shown after it. -/
inductive Error where
  | serviceUnavailable (detail : String)
  | platform (detail : String)
  | permissionDenied (detail : String)
  | thread (detail : String)
  | notSupported (detail : String)
  | invalidQualifier (text : String)
  | io (detail : String)
  | other (detail : String)
  deriving DecidableEq

/-- The text shown for an error: its cause, then the detail. -/
def Error.message : Error → String
  | serviceUnavailable d => "input service unavailable: " ++ d
  | platform d => "platform error: " ++ d
  | permissionDenied d => "permission denied: " ++ d
  | thread d => "thread error: " ++ d
  | notSupported d => "not supported: " ++ d
  | invalidQualifier t => "invalid device qualifier: " ++ t
  | io d => "i/o error: " ++ d
  | other d => d

end InputHub
