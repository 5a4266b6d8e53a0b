import InputHub.Change
import InputHub.EventNodes.Node
import InputHub.EventNodes.Rumble

/-!
# Input directories

A platform whose devices are the event nodes of a directory. Listing opens every node; listeners
watch the directory for nodes that come, go or change.
-/

namespace InputHub.EventNodes

/-- What stands at the path of an input directory. -/
inductive Place where
  | missing
  | file
  | directory
  deriving DecidableEq

/-- With what calls on a directory fail. -/
structure DirectoryFaults where
  list : Option Errno
  watch : Option Errno
  deriving DecidableEq

/-- An input directory with its listeners. -/
structure Platform where
  path : String
  place : Place
  nodes : List Node
  faults : DirectoryFaults
  /-- The numbers of the listeners, in ascending order. -/
  listeners : List Nat
  nextListener : Nat

/-- The devices that a listing found, and their motors by number. -/
structure Listing where
  devices : List Descriptor
  motors : List Rumble

namespace Platform

/-- A platform over what stands at a path. -/
def ofNodes (path : String) (place : Place) (nodes : List Node) : Platform :=
  ⟨path, place, nodes, ⟨none, none⟩, [], 0⟩

/-- The error of a path that is not there. -/
def doesNotExist (p : Platform) : Error := .serviceUnavailable (p.path ++ " does not exist")

/-- The error of a directory that cannot be used. -/
def accessError (p : Platform) (e : Errno) : Error :=
  if e = .noEntry then p.doesNotExist
  else if e.isDenied then
    .permissionDenied ("Cannot access " ++ p.path ++ ": " ++ e.text
      ++ ". Make sure you're in the 'input' group.")
  else .io e.text

/-! ## Listing -/

/-- With what listing the directory fails, if it does. -/
def listFault (p : Platform) : Option Errno :=
  match p.faults.list, p.place with
  | some e, _ => some e
  | none, .missing => some .noEntry
  | none, .file => some .notDirectory
  | none, .directory => none

/-- The path of a node. -/
def pathOf (p : Platform) (n : Node) : String := p.path ++ "/" ++ n.name

/-- The nodes that are devices, with their numbers, in ascending order of them. -/
def opened (p : Platform) : List (Int32 × Node × Facts) :=
  let found := p.nodes.filterMap fun n =>
    (nodeNumber? n.name).bind fun id => n.facts.map fun f => (id, n, f)
  found.mergeSort fun a b => decide (a.1 ≤ b.1)

/-- What is logged for nodes that cannot be opened. -/
def listNotices (p : Platform) : List Notice :=
  match p.listFault with
  | some _ => []
  | none => p.nodes.filterMap fun n =>
    match nodeNumber? n.name, n.facts with
    | some _, none => some (.openFailed (p.pathOf n) Errno.notTerminal.text)
    | _, _ => none

/-- Lists the devices in ascending order of their numbers. -/
def list (p : Platform) : Except Error Listing :=
  match p.listFault with
  | some e => .error (p.accessError e)
  | none =>
    let found := p.opened
    let devices := (found.zipIdx).map fun ((id, _, facts), motor) => facts.describe id motor
    .ok ⟨devices, found.map fun (_, n, _) => .fresh (p.pathOf n)⟩

/-! ## Watching -/

/-- The error of a watch that cannot be set. -/
def watchError (p : Platform) (e : Errno) : Error :=
  if e = .noSpace then
    .platform ("cannot watch " ++ p.path ++ ": OS file watch limit reached. about "
      ++ Text.bracketed [Text.quote p.path])
  else p.accessError e

/-- With what setting a watch fails, if it does. -/
def watchFault (p : Platform) : Option Errno :=
  match p.faults.watch, p.place with
  | some e, _ => some e
  | none, .missing => some .noEntry
  | none, _ => none

/-- Adds a listener and tells its number. -/
def listen (p : Platform) : Except Error (Nat × Platform) :=
  match p.watchFault with
  | some e => .error (p.watchError e)
  | none => .ok (p.nextListener,
      { p with listeners := p.listeners ++ [p.nextListener], nextListener := p.nextListener + 1 })

/-- What adding a listener logs. -/
def listenNotices (p : Platform) : List Notice :=
  match p.watchFault with
  | some _ => []
  | none => [.watching p.path]

/-- What is logged when reading from a watch fails; that there is nothing to read is no failure. -/
def readNotices (p : Platform) (e : Errno) : List Notice :=
  if p.listeners.isEmpty || e = .wouldWait then [] else [.watchFailed e.text]

/-- Removes a listener, if there is one with the number. -/
def unlisten (p : Platform) (n : Nat) : Platform :=
  { p with listeners := p.listeners.filter (· ≠ n) }

/-- Removes all listeners. -/
def close (p : Platform) : Platform := { p with listeners := [] }

/-- Whether the watches outlast a change of the directory itself: only where nobody listens. -/
def outlastsOwnChange (p : Platform) : Bool := p.listeners.isEmpty

/-! ## Changes -/

/-- What a change of a file tells the listeners: the number of the node, if it is one. -/
def told (change : Change) (name : String) : Option (Change × Int32) :=
  (nodeNumber? name).map fun id => (change, id)

/-- The file with a name. -/
def node? (p : Platform) (name : String) : Option Node := p.nodes.find? fun n => n.name = name

/-- Puts a file into the directory. The listeners are told if there was none with its name. -/
def add (p : Platform) (n : Node) : Platform × Option (Change × Int32) :=
  match p.node? n.name with
  | none => ({ p with nodes := p.nodes ++ [n] }, told .added n.name)
  | some _ => ({ p with nodes := p.nodes.map fun m => if m.name = n.name then n else m }, none)

/-- Takes a file out of the directory. -/
def remove (p : Platform) (name : String) : Platform × Option (Change × Int32) :=
  match p.node? name with
  | some _ => ({ p with nodes := p.nodes.filter fun n => n.name ≠ name }, told .removed name)
  | none => (p, none)

/-- Changes who may use a file. -/
def changeMode (p : Platform) (name : String) : Option (Change × Int32) :=
  (p.node? name).bind fun _ => told .changed name

/-- Gives a file another name; it is then no device. The listeners are not told. -/
def rename (p : Platform) (name newName : String) : Platform :=
  match p.node? name with
  | some _ =>
    let others := p.nodes.filter fun n => n.name ≠ name ∧ n.name ≠ newName
    { p with nodes := others ++ [⟨newName, none⟩] }
  | none => p

end Platform

end InputHub.EventNodes
