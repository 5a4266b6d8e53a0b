import Std.Data.TreeMap
import InputHub.Device
import InputHub.Notice

/-!
# Registry snapshots

A registry is a row of snapshots, each built from the one before and from a list of device
descriptions. A snapshot finds devices by the text of their qualifier and, through it, by platform
id.

A device that the list names again with the same source and name keeps its qualifier. Any other
device gets the least number that no device of the previous snapshot with its source and name has,
in ascending order of platform ids, so a number that became free is handed out one rescan later at
the earliest.

- `Snapshot.rebuild` is the next snapshot;
- `Snapshot.rebuildNotices` is what is logged on the way;
- `Snapshot.refresh` rebuilds from what a platform reports, or hands its error on.
-/

namespace InputHub

/-- The devices of one rescan. -/
structure Snapshot where
  /-- Devices by the text of their qualifier. -/
  devices : Std.TreeMap String Device
  /-- The text of a device's qualifier by its platform id. -/
  keys : Std.TreeMap Int32 String
  /-- How many rescans led here. -/
  generation : Nat

namespace Snapshot

/-- The snapshot before the first rescan. -/
def initial : Snapshot := ⟨∅, ∅, 0⟩

/-! ## Looking up -/

/-- The device whose qualifier reads `key`. -/
def get? (s : Snapshot) (key : String) : Option Device := s.devices[key]?

/-- The device under the key that a platform id has. -/
def getById? (s : Snapshot) (id : Int32) : Option Device := (s.keys[id]?).bind s.get?

/-- Whether some device's qualifier reads `key`. -/
def contains (s : Snapshot) (key : String) : Bool := s.devices.contains key

/-- The texts of all qualifiers in ascending order. -/
def qualifiers (s : Snapshot) : List String := s.devices.keys

/-- The devices in ascending order of the texts of their qualifiers. -/
def toList (s : Snapshot) : List Device := s.devices.values

/-- How many devices there are. -/
def size (s : Snapshot) : Nat := s.devices.size

/-! ## Rebuilding -/

/-- The descriptions whose platform id was not seen before. -/
def firsts (seen : List Int32) : List Descriptor → List Descriptor
  | [] => []
  | d :: ds =>
    if d.platformId ∈ seen then firsts seen ds else d :: firsts (d.platformId :: seen) ds

/-- The descriptions whose platform id was seen before. -/
def repeats (seen : List Int32) : List Descriptor → List Descriptor
  | [] => []
  | d :: ds =>
    if d.platformId ∈ seen then d :: repeats seen ds else repeats (d.platformId :: seen) ds

/-- The qualifier that a device keeps: that of the device under its platform id, if source and name
are the same. -/
def kept? (s : Snapshot) (d : Descriptor) : Option Qualifier :=
  (s.getById? d.platformId).bind fun old =>
    if old.qualifier.source = d.source ∧ old.qualifier.name = d.name then some old.qualifier
    else none

/-- The qualifier with the least number for a source and a name that is not taken. -/
def lowestFree (taken : List Qualifier) (source name : String) : Qualifier :=
  let candidates := (List.range (taken.length + 1)).map fun (n : Nat) =>
    (⟨source, UInt32.ofNat n, name⟩ : Qualifier)
  (candidates.find? fun q => q ∉ taken).getD ⟨source, 0, name⟩

/-- Gives new devices their qualifiers, one after the other. -/
def assign (taken : List Qualifier) : List Descriptor → List (Descriptor × Qualifier)
  | [] => []
  | d :: ds =>
    let q := lowestFree taken d.source d.name
    (d, q) :: assign (q :: taken) ds

/-- Every device of a list with its qualifier: first those that keep one, then the new ones. -/
def assigned (s : Snapshot) (ds : List Descriptor) : List (Descriptor × Qualifier) :=
  let present := firsts [] ds
  let old := present.filterMap fun d => (s.kept? d).map fun q => (d, q)
  let new := present.filter fun d => (s.kept? d).isNone
  let taken := s.toList.map Device.qualifier
  old ++ assign taken (new.mergeSort fun a b => decide (a.platformId ≤ b.platformId))

/-- Enters a device under its key and its platform id, in place of what was there. -/
def enter (s : Snapshot) (d : Descriptor) (q : Qualifier) : Snapshot :=
  { s with
    devices := s.devices.insert q.render (.ofDescriptor d q)
    keys := s.keys.insert d.platformId q.render }

/-- The snapshot of a list of descriptions; of several with one platform id the first counts. -/
def rebuild (s : Snapshot) (ds : List Descriptor) : Snapshot :=
  (s.assigned ds).foldl (fun t p => t.enter p.1 p.2) { initial with generation := s.generation + 1 }

/-- What is logged when a list of descriptions becomes the next snapshot. -/
def rebuildNotices (s : Snapshot) (ds : List Descriptor) : List Notice :=
  let next := s.rebuild ds
  (repeats [] ds).map (fun d => .repeatedId d.platformId d.name)
    ++ (next.qualifiers.filter fun k => !s.contains k).map .attached
    ++ (s.qualifiers.filter fun k => !next.contains k).map .detached
    ++ [.rebuilt next.generation next.size]

/-- The next snapshot when a platform reports its devices or fails to. -/
def refresh (s : Snapshot) (report : Except Error (List Descriptor)) : Except Error Snapshot :=
  report.map s.rebuild

/-- What a refresh logs. -/
def refreshNotices (s : Snapshot) : Except Error (List Descriptor) → List Notice
  | .ok ds => s.rebuildNotices ds
  | .error _ => []

end Snapshot

end InputHub
