import Std.Data.TreeMap
import Std.Data.TreeSet

/-!
# Sensor sampling

Which axes of which devices a platform no longer samples. Each axis follows the last word said about
it.
-/

namespace InputHub

/-- The suspended axes of each device. -/
structure Sampling where
  suspended : Std.TreeMap String (Std.TreeSet String)

namespace Sampling

/-- Everything is sampled. -/
def all : Sampling := ⟨∅⟩

/-- The suspended axes of a device. -/
def axesOf (s : Sampling) (device : String) : Std.TreeSet String := s.suspended.getD device ∅

/-- Suspends or resumes some axes of a device. A device is listed from its first suspension on, even
if that names no axis, until a resumption leaves it without suspended axes. -/
def set (s : Sampling) (device : String) (axes : List String) (suspend : Bool) : Sampling :=
  if suspend then ⟨s.suspended.insert device (axes.foldl (·.insert ·) (s.axesOf device))⟩
  else
    match s.suspended[device]? with
    | none => s
    | some old =>
      let left := axes.foldl (·.erase ·) old
      ⟨if left.isEmpty then s.suspended.erase device else s.suspended.insert device left⟩

/-- Whether samples of an axis are delivered. -/
def isDelivering (s : Sampling) (device axis : String) : Bool := !(s.axesOf device).contains axis

/-- The suspended axes of a device in ascending order. -/
def suspendedAxes (s : Sampling) (device : String) : List String := (s.axesOf device).toList

end Sampling

end InputHub
