import InputHub.Config
import InputHub.Json.Value
import InputHub.Snapshot

/-!
# Wire forms

How the hub's values are written as JSON and read back. A record is an object with its fields in
order; it may also be given as an array of its fields. Fields that a record does not know are
skipped, a field given twice is an error. A named case is a string, or an object from its name to
its content.

- `Wire.write` and `Wire.read?` go between values and texts;
- `Snapshot.toJson` is the report of all devices.
-/

namespace InputHub

/-- Values with a JSON form. -/
class Wire (α : Type) where
  toJson : α → Json
  ofJson? : Json → Option α

namespace Wire

/-- The text of a value. -/
def write {α : Type} [Wire α] (a : α) : String := (toJson a).render

/-- The value of a text. -/
def read? (α : Type) [Wire α] (s : String) : Option α := (Json.parse? s).bind ofJson?

/-! ## Parts of records -/

/-- A record with the given fields. -/
def record (fields : List (String × Json)) : Json :=
  .object (fields.map fun (k, v) => (Json.escape k.toList, v))

/-- The fields of an object under their plain names. -/
def named? (fields : List (List Char × Json)) : Option (List (String × Json)) :=
  fields.mapM fun (k, v) => (Json.unescape? k).map fun k => (String.ofList k, v)

/-- The value of a field, if it is given; more than one is an error. -/
def field? (fields : List (String × Json)) (name : String) : Option (Option Json) :=
  match fields.filter fun f => f.1 = name with
  | [] => some none
  | [(_, v)] => some (some v)
  | _ => none

/-- The fields of a record in the order of their names, each if it is given. -/
def fields? (names : List String) : Json → Option (List (Option Json))
  | .array items =>
    if items.length ≤ names.length then
      some (items.map some ++ List.replicate (names.length - items.length) none)
    else none
  | .object fields => (named? fields).bind fun fs => names.mapM (field? fs)
  | _ => none

/-- The content of a named case. -/
inductive Case where
  | bare (name : String)
  | holding (name : String) (content : Json)

/-- The named case that a value spells. -/
def case? : Json → Option Case
  | .string body => (Json.unescape? body).map fun n => .bare (String.ofList n)
  | .object [(k, v)] => (Json.unescape? k).map fun n => .holding (String.ofList n) v
  | _ => none

/-- The name of a case without content: by itself, or with nothing under it. -/
def plainCase? (v : Json) : Option String :=
  match case? v with
  | some (.bare n) => some n
  | some (.holding n .null) => some n
  | _ => none

/-! ## Numbers, texts and lists -/

/-- The whole number of a value. -/
def int? : Json → Option Int
  | .number literal => (Json.Literal.read? literal).bind Json.Literal.toInt?
  | _ => none

/-- The whole number of a value, if it is from `0` up to below `2 ^ width`. -/
def nat? (width : Nat) (v : Json) : Option Nat :=
  (int? v).bind fun n => if 0 ≤ n ∧ n.toNat < 1 <<< width then some n.toNat else none

instance : Wire String where
  toJson s := .string (Json.escape s.toList)
  ofJson?
    | .string body => (Json.unescape? body).map String.ofList
    | _ => none

instance : Wire Bool where
  toJson b := .bool b
  ofJson?
    | .bool b => some b
    | _ => none

instance : Wire UInt32 where
  toJson n := .number (Numeral.ofNat n.toNat).toList
  ofJson? v := (nat? 32 v).map UInt32.ofNat

instance : Wire Int32 where
  toJson n := .number (Numeral.ofInt n.toInt).toList
  ofJson? v := (int? v).bind fun n =>
    if Int32.minValue.toInt ≤ n ∧ n ≤ Int32.maxValue.toInt then some (Int32.ofInt n) else none

instance : Wire Binary32 where
  toJson x := if x.isSpecial then .null else .number (Json.Literal.layout.finite x).toList
  ofJson?
    | .number literal => (Json.Literal.read? literal).bind Json.Literal.toBinary32?
    | _ => none

instance {α : Type} [Wire α] : Wire (List α) where
  toJson xs := .array (xs.map toJson)
  ofJson?
    | .array items => items.mapM ofJson?
    | _ => none

/-! ## The hub's values -/

instance : Wire Qualifier where
  toJson q := record [("source", toJson q.source), ("id", toJson q.id), ("name", toJson q.name)]
  ofJson? v := do
    let [some source, some id, some name] ← fields? ["source", "id", "name"] v | none
    return ⟨← ofJson? source, ← ofJson? id, ← ofJson? name⟩

instance : Wire Capabilities where
  toJson c := toJson c.bits
  ofJson? v := (ofJson? v).map Capabilities.mk

instance : Wire Config where
  toJson c := record [("hotplug_thread_name", toJson c.workerName),
    ("refresh_on_register", toJson c.refreshOnRegister)]
  ofJson? v := do
    let [name, refresh] ← fields? ["hotplug_thread_name", "refresh_on_register"] v | none
    let name ← match name with
      | some v => ofJson? v
      | none => some Config.standard.workerName
    let refresh ← match refresh with
      | some v => ofJson? v
      | none => some Config.standard.refreshOnRegister
    return ⟨name, refresh⟩

instance : Wire Effect where
  toJson e := toJson e.name
  ofJson? v := (plainCase? v).bind Effect.ofName?

instance : Wire KeyAction where
  toJson a := toJson a.name
  ofJson? v := (plainCase? v).bind KeyAction.ofName?

instance : Wire InputSource where
  toJson
    | .gamepad => toJson "Gamepad"
    | .joystick => toJson "Joystick"
    | .touchscreen => toJson "Touchscreen"
    | .mouse => toJson "Mouse"
    | .keyboard => toJson "Keyboard"
    | .unknown code => record [("Unknown", toJson code)]
  ofJson? v :=
    match case? v with
    | some (.holding "Unknown" content) => (ofJson? content).map InputSource.unknown
    | _ =>
      match plainCase? v with
      | some "Gamepad" => some .gamepad
      | some "Joystick" => some .joystick
      | some "Touchscreen" => some .touchscreen
      | some "Mouse" => some .mouse
      | some "Keyboard" => some .keyboard
      | _ => none

/-- A moment takes no fields but its own. -/
instance : Wire Instant where
  toJson t := record [("secs_since_epoch", .number (Numeral.ofNat t.seconds).toList),
    ("nanos_since_epoch", .number (Numeral.ofNat t.nanos).toList)]
  ofJson? v := do
    let names := ["secs_since_epoch", "nanos_since_epoch"]
    match v with
    | .object fields =>
      let fs ← named? fields
      if fs.any fun f => !names.contains f.1 then none
    | _ => pure ()
    let [some seconds, some nanos] ← fields? names v | none
    Instant.ofParts? (← nat? 64 seconds) (← nat? 32 nanos)

instance : Wire AxisValue where
  toJson a := record [("axis", toJson a.axis), ("value", toJson a.value)]
  ofJson? v := do
    let [some axis, some value] ← fields? ["axis", "value"] v | none
    return ⟨← ofJson? axis, ← ofJson? value⟩

instance : Wire KeyEvent where
  toJson e := record [("device_id", toJson e.deviceId), ("key_code", toJson e.keyCode),
    ("action", toJson e.action), ("repeat_count", toJson e.repeatCount),
    ("meta_state", toJson e.metaState), ("time", toJson e.time)]
  ofJson? v := do
    let [some device, some code, some action, some count, some held, some time] ←
      fields? ["device_id", "key_code", "action", "repeat_count", "meta_state", "time"] v | none
    return ⟨← ofJson? device, ← ofJson? code, ← ofJson? action, ← ofJson? count, ← ofJson? held,
      ← ofJson? time⟩

instance : Wire MotionEvent where
  toJson e := record [("device_id", toJson e.deviceId), ("source", toJson e.source),
    ("axes", toJson e.axes), ("time", toJson e.time)]
  ofJson? v := do
    let [some device, some source, some axes, some time] ←
      fields? ["device_id", "source", "axes", "time"] v | none
    return ⟨← ofJson? device, ← ofJson? source, ← ofJson? axes, ← ofJson? time⟩

end Wire

/-- A device in the report of all devices; how it vibrates is left out. -/
def Device.toJson (d : Device) : Json :=
  Wire.record [("qualifier", Wire.toJson d.qualifier), ("platform_id", Wire.toJson d.platformId),
    ("capabilities", Wire.toJson d.capabilities), ("sensor_axes", Wire.toJson d.sensorAxes)]

/-- The report of all devices, in the order of the texts of their qualifiers. -/
def Snapshot.toJson (s : Snapshot) : String :=
  (Json.array (s.toList.map Device.toJson)).pretty

end InputHub
