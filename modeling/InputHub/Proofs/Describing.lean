import Mathlib.Data.Nat.Bitwise
import InputHub.Haptics.Rack
import InputHub.Proofs.Listing
import InputHub.Proofs.Tables

/-!
# What a capability mask says

A description is put together from additions: masks, sensor axes and vibration sources, in any order
and number. Sensor axes and vibration sources set a capability on their own. The registry carries
all of it over to the device.

* `Capabilities.Single`: masks of one capability, which tell masks apart (`eq_of_contains`) and are
  in a union exactly if they are in one of its parts (`Single.contains_union`);
* `Descriptor.Built` says what some additions have made of a description, `Descriptor.Built.add`
  that one more keeps it, `Descriptor.built_addAll` that it holds of any number;
* `EventNodes.Facts.ToldBy` says when a mask, axes and a vibration source tell the truth of an event
  node, `EventNodes.Facts.toldBy_describe` that those of its description do;
* `EventNodes.masks_tell_facts`: so every mask is right, from the additions to a description up to
  the device that is registered for a file of an input directory.
-/

namespace InputHub

/-! ## Single capabilities -/

namespace Capabilities

/-- A mask of one capability. -/
def Single (c : Capabilities) : Prop := ∃ n, c.bits.toNat = 2 ^ n

theorem single_keys : keys.Single := ⟨0, rfl⟩

theorem single_motion : motion.Single := ⟨1, rfl⟩

theorem single_sensors : sensors.Single := ⟨2, rfl⟩

theorem single_vibration : vibration.Single := ⟨3, rfl⟩

variable {a b c : Capabilities}

theorem contains_iff_testBit {n : Nat} (h : c.bits.toNat = 2 ^ n) :
    a.contains c ↔ a.bits.toNat.testBit n := by
  rw [contains, beq_iff_eq, ← UInt32.toNat_inj, UInt32.toNat_and, h, Nat.and_two_pow]
  cases a.bits.toNat.testBit n <;> simp [(Nat.two_pow_pos n).ne]

theorem Single.contains_union (hc : c.Single) :
    (a.union b).contains c ↔ a.contains c ∨ b.contains c := by
  obtain ⟨n, hn⟩ := hc
  simp only [contains_iff_testBit hn, union, UInt32.toNat_or, Nat.testBit_or, Bool.or_eq_true]

theorem Single.not_contains_none (hc : c.Single) : ¬ none.contains c := by
  obtain ⟨n, hn⟩ := hc
  rw [contains_iff_testBit hn]
  simp [none]

theorem Single.contains_iff_eq (ha : a.Single) (hc : c.Single) : a.contains c ↔ c = a := by
  obtain ⟨m, hm⟩ := ha
  obtain ⟨n, hn⟩ := hc
  rw [contains_iff_testBit hn, hm, Nat.testBit_two_pow, decide_eq_true_iff]
  constructor
  · rintro rfl
    have hbits : c.bits = a.bits := UInt32.toNat_inj.1 (hn.trans hm.symm)
    cases a
    cases c
    exact congrArg mk hbits
  · rintro rfl
    exact Nat.pow_right_injective (Nat.le_refl 2) (hm.symm.trans hn)

/-- Masks are the same if they have the same single capabilities. -/
theorem eq_of_contains (h : ∀ c : Capabilities, c.Single → (a.contains c ↔ b.contains c)) :
    a = b := by
  have hbits : a.bits.toNat = b.bits.toNat := by
    refine Nat.eq_of_testBit_eq fun i => ?_
    rcases Nat.lt_or_ge i 32 with hi | hi
    · have hsingle : (⟨UInt32.ofNat (2 ^ i)⟩ : Capabilities).bits.toNat = 2 ^ i :=
        UInt32.toNat_ofNat_of_lt' (Nat.pow_lt_pow_right Nat.one_lt_two hi)
      have hsame := h _ ⟨i, hsingle⟩
      rwa [contains_iff_testBit hsingle, contains_iff_testBit hsingle, ← Bool.eq_iff_iff] at hsame
    · have hword (w : UInt32) : w.toNat.testBit i = false :=
        Nat.testBit_lt_two_pow (w.toNat_lt.trans_le (Nat.pow_le_pow_right Nat.two_pos hi))
      rw [hword, hword]
  cases a
  cases b
  exact congrArg mk (UInt32.toNat_inj.1 hbits)

end Capabilities

/-! ## Additions -/

namespace Descriptor

/-- Something that is added to a description. -/
inductive Addition where
  | capabilities (mask : Capabilities)
  | sensorAxes (axes : List String)
  | vibration (source : VibrationSource)

namespace Addition

/-- The capabilities that are set with an addition. -/
def mask : Addition → Capabilities
  | capabilities mask => mask
  | sensorAxes _ => .sensors
  | vibration _ => .vibration

/-- The sensor axes that an addition brings. -/
def axes : Addition → List String
  | sensorAxes axes => axes
  | capabilities _ | vibration _ => []

/-- The vibration source that an addition brings. -/
def source? : Addition → Option VibrationSource
  | vibration source => some source
  | capabilities _ | sensorAxes _ => none

end Addition

/-- The description with one addition. -/
def add (d : Descriptor) : Addition → Descriptor
  | .capabilities mask => d.withCapabilities mask
  | .sensorAxes axes => d.withSensorAxes axes
  | .vibration source => d.withVibration source

/-- The description with some additions, one after the other. -/
def addAll (d : Descriptor) (additions : List Addition) : Descriptor := additions.foldl add d

/-- What some additions make of a description: it stands for the same device, has the capabilities
it had and those that were set with any of them, the axes of all of them behind its own, and the
vibration source that was brought last. -/
structure Built (d : Descriptor) (additions : List Addition) (d' : Descriptor) : Prop where
  platformId : d'.platformId = d.platformId
  source : d'.source = d.source
  name : d'.name = d.name
  contains {c : Capabilities} : c.Single →
    (d'.capabilities.contains c ↔
      d.capabilities.contains c ∨ ∃ a ∈ additions, a.mask.contains c)
  sensorAxes : d'.sensorAxes = d.sensorAxes ++ additions.flatMap Addition.axes
  vibration : d'.vibration = (additions.filterMap Addition.source?).getLast?.or d.vibration

theorem capabilities_add (d : Descriptor) (a : Addition) :
    (d.add a).capabilities = d.capabilities.union a.mask := by
  cases a <;> rfl

theorem sensorAxes_add (d : Descriptor) (a : Addition) :
    (d.add a).sensorAxes = d.sensorAxes ++ a.axes := by
  cases a with
  | sensorAxes axes => rfl
  | capabilities mask | vibration source => exact (List.append_nil _).symm

theorem vibration_add (d : Descriptor) (a : Addition) :
    (d.add a).vibration = a.source?.or d.vibration := by
  cases a <;> rfl

theorem Built.add {d d' : Descriptor} {additions : List Addition} (h : Built d additions d')
    (a : Addition) : Built d (additions ++ [a]) (d'.add a) where
  platformId := by cases a <;> exact h.platformId
  source := by cases a <;> exact h.source
  name := by cases a <;> exact h.name
  contains hc := by
    rw [capabilities_add, hc.contains_union, h.contains hc, or_assoc]
    simp [or_and_right, exists_or]
  sensorAxes := by
    rw [sensorAxes_add, h.sensorAxes, List.append_assoc]
    simp
  vibration := by
    rw [vibration_add, h.vibration, List.filterMap_append, List.getLast?_append, Option.or_assoc]
    cases a <;> rfl

theorem built_addAll (d : Descriptor) (additions : List Addition) :
    Built d additions (d.addAll additions) := by
  induction additions using List.reverseRecOn with
  | nil => exact ⟨rfl, rfl, rfl, fun _ => by simp [addAll], by simp [addAll], rfl⟩
  | append_singleton additions a ih =>
    rw [addAll, List.foldl_append]
    exact ih.add a

/-- What a description says that was made by additions alone: its mask has what the given masks
have, `sensors` if sensor axes were added and `vibration` if a vibration source was added; its axes
are those added, one after the other, and its vibration source is the last one. -/
structure Gathers (additions : List Addition) (d : Descriptor) : Prop where
  contains {c : Capabilities} : c.Single →
    (d.capabilities.contains c ↔
      (∃ mask, .capabilities mask ∈ additions ∧ mask.contains c) ∨
        (c = .sensors ∧ ∃ axes, .sensorAxes axes ∈ additions) ∨
        (c = .vibration ∧ ∃ source, .vibration source ∈ additions))
  sensors : d.capabilities.contains .sensors ↔
    (∃ axes, .sensorAxes axes ∈ additions) ∨
      ∃ mask, .capabilities mask ∈ additions ∧ mask.contains .sensors
  vibrates : d.capabilities.contains .vibration ↔
    (∃ source, .vibration source ∈ additions) ∨
      ∃ mask, .capabilities mask ∈ additions ∧ mask.contains .vibration
  sensorAxes : d.sensorAxes = additions.flatMap Addition.axes
  vibration : d.vibration = (additions.filterMap Addition.source?).getLast?

theorem exists_mask_contains_iff {c : Capabilities} (hc : c.Single) (additions : List Addition) :
    (∃ a ∈ additions, a.mask.contains c) ↔
      (∃ mask, .capabilities mask ∈ additions ∧ mask.contains c) ∨
        (c = .sensors ∧ ∃ axes, .sensorAxes axes ∈ additions) ∨
        (c = .vibration ∧ ∃ source, .vibration source ∈ additions) := by
  constructor
  · rintro ⟨mask | axes | source, ha, hmask⟩
    · exact .inl ⟨mask, ha, hmask⟩
    · exact .inr (.inl ⟨(Capabilities.single_sensors.contains_iff_eq hc).1 hmask, axes, ha⟩)
    · exact .inr (.inr ⟨(Capabilities.single_vibration.contains_iff_eq hc).1 hmask, source, ha⟩)
  · rintro (⟨mask, ha, hmask⟩ | ⟨rfl, axes, ha⟩ | ⟨rfl, source, ha⟩)
    · exact ⟨_, ha, hmask⟩
    · exact ⟨_, ha, (Capabilities.single_sensors.contains_iff_eq hc).2 rfl⟩
    · exact ⟨_, ha, (Capabilities.single_vibration.contains_iff_eq hc).2 rfl⟩

theorem gathers_addAll (id : Int32) (source name : String) (additions : List Addition) :
    Gathers additions ((bare id source name).addAll additions) := by
  have hbuilt := built_addAll (bare id source name) additions
  have hcontains {c : Capabilities} (hc : c.Single) :
      ((bare id source name).addAll additions).capabilities.contains c ↔
        ∃ a ∈ additions, a.mask.contains c := by
    rw [hbuilt.contains hc]
    exact or_iff_right hc.not_contains_none
  have hsensors : Capabilities.sensors ≠ .vibration := by decide
  refine ⟨fun hc => ?_, ?_, ?_, hbuilt.sensorAxes, ?_⟩
  · rw [hcontains hc, exists_mask_contains_iff hc]
  · rw [hcontains Capabilities.single_sensors,
      exists_mask_contains_iff Capabilities.single_sensors]
    simp [hsensors, or_comm]
  · rw [hcontains Capabilities.single_vibration,
      exists_mask_contains_iff Capabilities.single_vibration]
    simp [hsensors.symm, or_comm]
  · rw [hbuilt.vibration]
    exact Option.or_none

/-- The mask does not depend on the order of the additions. -/
theorem capabilities_addAll_perm {additions additions' : List Addition}
    (h : additions.Perm additions') (d : Descriptor) :
    (d.addAll additions).capabilities = (d.addAll additions').capabilities := by
  refine Capabilities.eq_of_contains fun c hc => ?_
  rw [(built_addAll d additions).contains hc, (built_addAll d additions').contains hc]
  simp only [h.mem_iff]

end Descriptor

/-! ## Managers of vibrators -/

/-- A rumble request finds no source exactly if the device has no manager, and else goes to the
motor that the manager knows. -/
theorem Rack.rumbleOn_outcome (r : Rack) (dev : Device) (id : Int32) :
    (r.rumbleOn dev.vibration id).2.2 =
      match dev.manager? r.present with
      | none => .noSource
      | some m => if (m.motor? id).isSome then .played else .noVibrator := by
  rw [rumbleOn, ← Device.manager?]
  cases dev.manager? r.present with
  | none => rfl
  | some manager => cases hmotor : manager.motor? id <;> simp [hmotor]

namespace EventNodes

open Snapshot

/-! ## Descriptions of event nodes -/

namespace Facts

/-- The device has a key with a code. -/
def HasKey (f : Facts) (code : Nat) : Prop := code < keyCodes ∧ code ∈ f.keys.getD []

/-- The device has an absolute axis with a code. -/
def HasAxis (f : Facts) (code : Nat) : Prop := code < axisCodes ∧ code ∈ f.axes.getD []

/-- The device can play a force-feedback effect with a code. -/
def HasEffect (f : Facts) (code : Nat) : Prop := code ∈ f.effects.getD []

/-- The device has a property with a code. -/
def HasProperty (f : Facts) (code : Nat) : Prop := code ∈ f.properties

instance (f : Facts) (code : Nat) : Decidable (f.HasKey code) :=
  inferInstanceAs (Decidable (_ ∧ _))

instance (f : Facts) (code : Nat) : Decidable (f.HasAxis code) :=
  inferInstanceAs (Decidable (_ ∧ _))

instance (f : Facts) (code : Nat) : Decidable (f.HasEffect code) :=
  inferInstanceAs (Decidable (_ ∈ _))

instance (f : Facts) (code : Nat) : Decidable (f.HasProperty code) :=
  inferInstanceAs (Decidable (_ ∈ _))

/-- A mask, sensor axes and a vibration source tell the truth of a device, and nothing else. -/
structure ToldBy (f : Facts) (mask : Capabilities) (axes : List String)
    (vibration : Option VibrationSource) : Prop where
  keys : mask.contains .keys ↔ ∃ code, f.HasKey code
  motion : mask.contains .motion ↔ ¬ f.HasProperty accelerometer ∧ ∃ code, f.HasAxis code
  sensors : mask.contains .sensors ↔ f.HasProperty accelerometer
  vibrates : mask.contains .vibration ↔ f.HasEffect rumbleEffect
  known {c : Capabilities} : c.Single → mask.contains c →
    c ∈ [.keys, .motion, .sensors, .vibration]
  exclusive : ¬ (mask.contains .sensors ∧ mask.contains .motion)
  source : vibration.isSome ↔ f.HasEffect rumbleEffect
  axes_iff : f.HasProperty accelerometer →
    ∀ name, name ∈ axes ↔ ∃ code, f.HasAxis code ∧ (code, name) ∈ sensorAxes
  no_axes : ¬ f.HasProperty accelerometer → axes = []
  in_order : axes.Sublist (sensorAxes.map Prod.snd)
  nodup : axes.Nodup

/-- What is added to the description of a device. -/
def additions (f : Facts) (motor : MotorId) : List Descriptor.Addition :=
  .capabilities f.capabilities ::
    ((if f.isAccelerometer then [.sensorAxes f.axisNames] else []) ++
      if f.canRumble then [.vibration (.single motor)] else [])

theorem describe_eq (f : Facts) (id : Int32) (motor : MotorId) :
    f.describe id motor =
      (Descriptor.bare id EventNodes.source f.label).addAll (f.additions motor) := by
  unfold describe additions
  split <;> split <;> rfl

theorem hasAnyBelow_iff (limit : Nat) (codes : Option (List Nat)) :
    hasAnyBelow limit codes ↔ ∃ code, code < limit ∧ code ∈ codes.getD [] := by
  simp [hasAnyBelow, and_comm]

theorem isAccelerometer_iff {f : Facts} : f.isAccelerometer ↔ f.HasProperty accelerometer := by
  simp [isAccelerometer, HasProperty]

theorem canRumble_iff {f : Facts} : f.canRumble ↔ f.HasEffect rumbleEffect := by
  simp [canRumble, HasEffect]

/-- The codes alone give no other capabilities than `keys` and `motion`. -/
theorem contains_capabilities_iff (f : Facts) {c : Capabilities} (hc : c.Single) :
    f.capabilities.contains c ↔ (c = .keys ∧ ∃ code, f.HasKey code) ∨
      (c = .motion ∧ ¬ f.HasProperty accelerometer ∧ ∃ code, f.HasAxis code) := by
  have hkeys : (if hasAnyBelow keyCodes f.keys then Capabilities.keys else .none).contains c ↔
      c = .keys ∧ ∃ code, f.HasKey code := by
    simp only [HasKey, ← hasAnyBelow_iff]
    split
    · simp [*, Capabilities.single_keys.contains_iff_eq hc]
    · simp [*, hc.not_contains_none]
  rw [capabilities]
  split
  · rename_i hmoves
    rw [Bool.and_eq_true, Bool.not_eq_true', ← Bool.not_eq_true, hasAnyBelow_iff,
      isAccelerometer_iff] at hmoves
    rw [hc.contains_union, hkeys, Capabilities.single_motion.contains_iff_eq hc]
    simp [HasAxis, hmoves.1, hmoves.2]
  · rename_i hstill
    rw [Bool.and_eq_true, Bool.not_eq_true', ← Bool.not_eq_true, hasAnyBelow_iff,
      isAccelerometer_iff, and_comm] at hstill
    rw [hkeys]
    simp only [HasAxis, hstill, and_false, or_false]

theorem mem_additions_iff (f : Facts) (motor : MotorId) {a : Descriptor.Addition} :
    a ∈ f.additions motor ↔ a = .capabilities f.capabilities ∨
      (a = .sensorAxes f.axisNames ∧ f.HasProperty accelerometer) ∨
      (a = .vibration (.single motor) ∧ f.HasEffect rumbleEffect) := by
  rw [← isAccelerometer_iff, ← canRumble_iff, additions, List.mem_cons, List.mem_append]
  cases f.isAccelerometer <;> cases f.canRumble <;> simp

theorem contains_describe_iff (f : Facts) (id : Int32) (motor : MotorId) {c : Capabilities}
    (hc : c.Single) :
    (f.describe id motor).capabilities.contains c ↔
      (c = .keys ∧ ∃ code, f.HasKey code) ∨
      (c = .motion ∧ ¬ f.HasProperty accelerometer ∧ ∃ code, f.HasAxis code) ∨
      (c = .sensors ∧ f.HasProperty accelerometer) ∨
      (c = .vibration ∧ f.HasEffect rumbleEffect) := by
  rw [describe_eq, (Descriptor.gathers_addAll ..).contains hc]
  simp [mem_additions_iff, f.contains_capabilities_iff hc, or_assoc]

theorem mem_axisNames_iff (f : Facts) (name : String) :
    name ∈ f.axisNames ↔ ∃ code, f.HasAxis code ∧ (code, name) ∈ sensorAxes := by
  -- The codes of sensor axes are among the first, so all of them stand for axes.
  have hcodes : ∀ a ∈ sensorAxes, a.1 < axisCodes := by decide
  simp only [axisNames, List.mem_map, List.mem_filter, List.contains_iff_mem, HasAxis]
  constructor
  · rintro ⟨⟨code, name⟩, ⟨ha, hcode⟩, rfl⟩
    exact ⟨code, ⟨hcodes _ ha, hcode⟩, ha⟩
  · rintro ⟨code, ⟨-, hcode⟩, ha⟩
    exact ⟨(code, name), ⟨ha, hcode⟩, rfl⟩

theorem axisNames_sublist (f : Facts) : f.axisNames.Sublist (sensorAxes.map Prod.snd) :=
  List.filter_sublist.map _

theorem sensorAxes_describe (f : Facts) (id : Int32) (motor : MotorId) :
    (f.describe id motor).sensorAxes = if f.isAccelerometer then f.axisNames else [] := by
  rw [describe_eq, (Descriptor.gathers_addAll ..).sensorAxes, additions]
  cases f.isAccelerometer <;> cases f.canRumble <;> simp [Descriptor.Addition.axes]

theorem vibration_describe (f : Facts) (id : Int32) (motor : MotorId) :
    (f.describe id motor).vibration = if f.canRumble then some (.single motor) else none := by
  rw [describe_eq, (Descriptor.gathers_addAll ..).vibration, additions]
  cases f.isAccelerometer <;> cases f.canRumble <;> rfl

theorem toldBy_describe (f : Facts) (id : Int32) (motor : MotorId) :
    f.ToldBy (f.describe id motor).capabilities (f.describe id motor).sensorAxes
      (f.describe id motor).vibration := by
  have hcontains {c : Capabilities} (hc : c.Single) := f.contains_describe_iff id motor hc
  have hmotion : (f.describe id motor).capabilities.contains .motion ↔
      ¬ f.HasProperty accelerometer ∧ ∃ code, f.HasAxis code := by
    simp +decide [hcontains Capabilities.single_motion]
  have hsensors : (f.describe id motor).capabilities.contains .sensors ↔
      f.HasProperty accelerometer := by
    simp +decide [hcontains Capabilities.single_sensors]
  have horder : (f.describe id motor).sensorAxes.Sublist (sensorAxes.map Prod.snd) := by
    rw [sensorAxes_describe]
    split
    · exact f.axisNames_sublist
    · exact List.nil_sublist _
  refine ⟨?_, hmotion, hsensors, ?_, fun hc h => ?_, fun h => ?_, ?_, fun h name => ?_, fun h => ?_,
    horder, horder.nodup (by decide)⟩
  · simp +decide [hcontains Capabilities.single_keys]
  · simp +decide [hcontains Capabilities.single_vibration]
  · rcases (hcontains hc).1 h with ⟨rfl, -⟩ | ⟨rfl, -⟩ | ⟨rfl, -⟩ | ⟨rfl, -⟩ <;> decide
  · exact (hmotion.1 h.2).1 (hsensors.1 h.1)
  · rw [vibration_describe, ← canRumble_iff]
    split <;> simp [*]
  · rw [sensorAxes_describe, if_pos (isAccelerometer_iff.2 h), mem_axisNames_iff]
  · rw [sensorAxes_describe, if_neg (mt isAccelerometer_iff.1 h)]

/-- A device tells the truth, and has a manager of vibrators exactly if it can rumble. -/
structure ShownBy (f : Facts) (dev : Device) : Prop
    extends ToldBy f dev.capabilities dev.sensorAxes dev.vibration where
  manager (present : MotorId → Bool) : (dev.manager? present).isSome ↔ f.HasEffect rumbleEffect
  refused (r : Rack) (id : Int32) :
    (r.rumbleOn dev.vibration id).2.2 = .noSource ↔ ¬ f.HasEffect rumbleEffect

theorem shownBy_of_shows {f : Facts} {id : Int32} {motor : MotorId} {dev : Device}
    (h : dev.Shows (f.describe id motor)) : f.ShownBy dev := by
  have htold : f.ToldBy dev.capabilities dev.sensorAxes dev.vibration := by
    rw [h.capabilities, h.sensorAxes, h.vibration]
    exact f.toldBy_describe id motor
  have hmanager (present : MotorId → Bool) :
      (dev.manager? present).isSome ↔ f.HasEffect rumbleEffect := by
    rw [Device.manager?, Option.isSome_map, htold.source]
  refine ⟨htold, hmanager, fun r id => ?_⟩
  rw [← hmanager r.present, r.rumbleOn_outcome dev id]
  cases dev.manager? r.present with
  | none => simp
  | some m => by_cases hm : (m.motor? id).isSome <;> simp [hm]

/-- A snapshot has a device under a platform id, and the device tells the truth of the facts. -/
def RegisteredIn (f : Facts) (id : Int32) (s : Snapshot) : Prop :=
  ∃ dev, s.getById? id = some dev ∧ dev.platformId = id ∧ f.ShownBy dev

end Facts

/-! ## Registered devices -/

section Registered

variable {history : List Snapshot.Request} {f : Facts} {id : Int32} {motor : MotorId}
  (hfirst : firstWith? (reported history) id = some (f.describe id motor)) {dev : Device}
include hfirst

/-- A device with the platform id of an event node tells the truth of it, if it has all that the
last rescan said. -/
theorem shownBy_of_described (hid : dev.platformId = id)
    (h : ∃ d, firstWith? (reported history) dev.platformId = some d ∧ dev.Shows d) :
    f.ShownBy dev := by
  obtain ⟨d, hd, hshows⟩ := h
  rw [hid, hfirst] at hd
  obtain rfl := Option.some.inj hd
  exact Facts.shownBy_of_shows hshows

theorem shownBy_of_mem (hdev : dev ∈ (afterAll history).toList) (hid : dev.platformId = id) :
    f.ShownBy dev := by
  have hfits := fits_afterAll history
  exact shownBy_of_described hfirst hid (hfits.described (hfits.mem_toList_iff.1 hdev))

theorem registeredIn_afterAll (hclear : ¬ Shadowed (entries history) id) :
    f.RegisteredIn id (afterAll history) := by
  have hrouted := routedTo_getById? history id
  have hreported : id ∈ (reported history).map Descriptor.platformId :=
    List.mem_map.2 ⟨_, List.mem_of_find?_eq_some hfirst, f.describe_platformId id motor⟩
  obtain ⟨dev, hdev⟩ := Option.isSome_iff_exists.1 (hrouted.isSome_iff.2 hreported)
  have hid : dev.platformId = id := (hrouted.own hdev).2 hclear
  exact ⟨dev, hdev, hid, shownBy_of_described hfirst hid (hrouted.shows hdev)⟩

end Registered

/-! ## Input directories -/

namespace Platform

variable {p : Platform}

/-- The request that rescans an input directory. -/
def rescan (p : Platform) : Snapshot.Request := .refresh (p.list.map Listing.devices)

theorem found?_rescan (hdir : p.listFault = none) : p.rescan.found? = some p.listing.devices := by
  rw [rescan, list_eq_ok hdir]
  rfl

theorem reported_rescan (hdir : p.listFault = none) (history : List Snapshot.Request) :
    reported (history ++ [p.rescan]) = p.listing.devices := by
  rw [reported_concat, found?_rescan hdir, Option.getD_some]

/-- Every device that is listed is that of a file. -/
theorem mem_devices_iff {d : Descriptor} :
    d ∈ p.listing.devices ↔ ∃ i id n, ∃ f : Facts,
      p.opened[i]? = some (id, n, f) ∧ f.describe id i = d := by
  simp only [List.mem_iff_getElem?, getElem?_devices, Option.map_eq_some_iff, Prod.exists]

theorem plain_rescan (p : Platform) : p.rescan.Plain := by
  intro ds hds d hd
  cases hfault : p.listFault with
  | some e =>
    rw [rescan, list, hfault] at hds
    cases hds
  | none =>
    rw [found?_rescan hfault] at hds
    obtain rfl := Option.some.inj hds
    obtain ⟨i, id, n, f, -, rfl⟩ := mem_devices_iff.1 hd
    rw [f.describe_eq, (Descriptor.built_addAll ..).source]
    exact show PlainSource EventNodes.source by decide

theorem firstWith?_devices (honce : p.NumberedOnce) {n : Node} {f : Facts} {id : Int32}
    (ho : (id, n, f) ∈ p.opened) :
    ∃ motor, firstWith? p.listing.devices id = some (f.describe id motor) := by
  obtain ⟨i, hi⟩ := List.mem_iff_getElem?.1 ho
  obtain ⟨d, hd⟩ := exists_firstWith? (mem_devices_iff.2 ⟨i, id, n, f, hi, rfl⟩)
  rw [f.describe_platformId] at hd
  obtain ⟨j, id', n', f', hj, rfl⟩ := mem_devices_iff.1 (List.mem_of_find?_eq_some hd)
  have hid : id' = id := by rw [← firstWith?_platformId hd, f'.describe_platformId]
  obtain ⟨rfl, -, rfl⟩ : id' = id ∧ n' = n ∧ f' = f := by
    have := honce.eq_of_mem (List.mem_of_getElem? hj) ho hid
    simpa using this
  exact ⟨j, hd⟩

/-- Every device that is there after the rescan of a directory tells the truth of a file with its
number. -/
theorem shownBy_of_rescan (hdir : p.listFault = none) {history : List Snapshot.Request}
    {dev : Device} (hdev : dev ∈ (afterAll (history ++ [p.rescan])).toList) :
    ∃ n ∈ p.nodes, ∃ f, n.facts = some f ∧ Numbered n.name dev.platformId ∧ f.ShownBy dev := by
  have hfits := fits_afterAll (history ++ [p.rescan])
  rw [reported_rescan hdir] at hfits
  obtain ⟨d, hd, hshows⟩ := hfits.described (hfits.mem_toList_iff.1 hdev)
  obtain ⟨i, id, n, f, hi, rfl⟩ := mem_devices_iff.1 (List.mem_of_find?_eq_some hd)
  obtain ⟨hn, hnumber, hfacts⟩ := mem_opened_iff.1 (List.mem_of_getElem? hi)
  rw [← firstWith?_platformId hd, f.describe_platformId]
  exact ⟨n, hn, f, hfacts, hnumber, Facts.shownBy_of_shows hshows⟩

/-- Every file that can be opened and has a number of its own has a device that tells the truth. -/
theorem registeredIn_rescan (hdir : p.listFault = none) (honce : p.NumberedOnce)
    {history : List Snapshot.Request} (hplain : ∀ r ∈ history, r.Plain) {n : Node}
    (hn : n ∈ p.nodes) {f : Facts} (hfacts : n.facts = some f) {id : Int32}
    (hnumber : Numbered n.name id) :
    f.RegisteredIn id (afterAll (history ++ [p.rescan])) := by
  obtain ⟨motor, hfirst⟩ := firstWith?_devices honce (mem_opened_iff.2 ⟨hn, hnumber, hfacts⟩)
  rw [← reported_rescan hdir history] at hfirst
  refine registeredIn_afterAll hfirst (not_shadowed (fun r hr => ?_) id)
  rcases List.mem_append.1 hr with hr | hr
  · exact hplain r hr
  · obtain rfl := List.mem_singleton.1 hr
    exact p.plain_rescan

end Platform

/-- Masks tell the truth. A description that is made by additions has exactly the capabilities that
were given or that come with its sensor axes and vibration sources, in whatever order. The
description of an event node tells the truth of the node, and so does every device that a registry
has with its platform id, after any history in which it was reported first under this id; there is
one unless a device was entered after it that reads the same, which never happens where no source
has a slash. After the rescan of a directory every device tells the truth of a file, and where no
two files have the same number every file that can be opened has its own. -/
theorem masks_tell_facts :
    (∀ id source name additions,
      Descriptor.Gathers additions (.addAll (.bare id source name) additions) ∧
      ∀ additions', additions'.Perm additions →
        (Descriptor.addAll (.bare id source name) additions').capabilities =
          (Descriptor.addAll (.bare id source name) additions).capabilities) ∧
    (∀ (f : Facts) id motor,
      (f.describe id motor).platformId = id ∧
      f.ToldBy (f.describe id motor).capabilities (f.describe id motor).sensorAxes
        (f.describe id motor).vibration) ∧
    (∀ history (f : Facts) id motor,
      firstWith? (reported history) id = some (f.describe id motor) →
        (∀ dev ∈ (afterAll history).toList, dev.platformId = id → f.ShownBy dev) ∧
        (¬ Shadowed (entries history) id → f.RegisteredIn id (afterAll history)) ∧
        ((∀ r ∈ history, r.Plain) → f.RegisteredIn id (afterAll history))) ∧
    ∀ (p : Platform) history, p.listFault = none →
      (∀ dev ∈ (afterAll (history ++ [p.rescan])).toList, ∃ n ∈ p.nodes, ∃ f, n.facts = some f ∧
        Numbered n.name dev.platformId ∧ f.ShownBy dev) ∧
      ((∀ r ∈ history, r.Plain) → p.NumberedOnce → ∀ n ∈ p.nodes, ∀ f id, n.facts = some f →
        Numbered n.name id → f.RegisteredIn id (afterAll (history ++ [p.rescan]))) := by
  refine ⟨fun id source name additions => ⟨Descriptor.gathers_addAll .., fun additions' h => ?_⟩,
    fun f id motor => ⟨f.describe_platformId id motor, f.toldBy_describe id motor⟩,
    fun history f id motor hfirst => ⟨fun dev => shownBy_of_mem hfirst,
      registeredIn_afterAll hfirst, fun hplain => ?_⟩,
    fun p history hdir => ⟨fun dev => Platform.shownBy_of_rescan hdir,
      fun hplain honce n hn f id hfacts hnumber => ?_⟩⟩
  · exact Descriptor.capabilities_addAll_perm h _
  · exact registeredIn_afterAll hfirst (not_shadowed hplain id)
  · exact Platform.registeredIn_rescan hdir honce hplain hn hfacts hnumber

/-- What is said of a sensor with two axes, one told twice, and an axis that no sensor names. -/
def tilt : Facts := ⟨"Tilt", none, some [40, 1, 0, 1], none, [Facts.accelerometer]⟩

/-- What is said of a pad with a key, a stick and a motor. -/
def pad : Facts := ⟨"Pad", some [304], some [0, 1], some [Facts.rumbleEffect], []⟩

/-- A directory with both. -/
def desk : Platform :=
  .ofNodes "/dev/input" .directory [⟨"event12", some pad⟩, ⟨"event3", some tilt⟩]

theorem numberedOnce_desk : desk.NumberedOnce := by
  refine Platform.PlainlyNumbered.numberedOnce (fun n hn _ _ _ => ?_) (by decide)
  simp only [desk, Platform.ofNodes, List.mem_cons, List.not_mem_nil, or_false] at hn
  rcases hn with rfl | rfl
  · exact ⟨12, by decide⟩
  · exact ⟨3, by decide⟩

theorem desk_tells_facts :
    desk.listFault = none ∧ desk.NumberedOnce ∧
    (∃ dev, (afterAll [desk.rescan]).getById? 12 = some dev ∧ dev.hasCapability .motion ∧
      dev.hasCapability .vibration ∧ ¬ dev.hasCapability .sensors ∧
      (dev.manager? fun _ => true).isSome) ∧
    ∃ dev, (afterAll [desk.rescan]).getById? 3 = some dev ∧ dev.hasCapability .sensors ∧
      ¬ dev.hasCapability .motion ∧ "y" ∈ dev.sensorAxes ∧ "z" ∉ dev.sensorAxes := by
  have hdir : desk.listFault = none := by decide
  obtain ⟨-, hregistered⟩ := masks_tell_facts.2.2.2 desk [] hdir
  have hregistered := hregistered (by simp) numberedOnce_desk
  obtain ⟨dev, hdev, -, hpad⟩ := hregistered ⟨"event12", some pad⟩
    (by simp [desk, Platform.ofNodes]) pad 12 rfl (nodeNumber?_eq_some_iff.1 (by decide))
  obtain ⟨dev', hdev', -, htilt⟩ := hregistered ⟨"event3", some tilt⟩
    (by simp [desk, Platform.ofNodes]) tilt 3 rfl (nodeNumber?_eq_some_iff.1 (by decide))
  have hstill : ¬ pad.HasProperty Facts.accelerometer := by decide
  have hsensor : tilt.HasProperty Facts.accelerometer := by decide
  have hrumble : pad.HasEffect Facts.rumbleEffect := by decide
  refine ⟨hdir, numberedOnce_desk, ⟨dev, hdev, ?_, hpad.vibrates.2 hrumble, ?_,
    (hpad.manager _).2 hrumble⟩, dev', hdev', htilt.sensors.2 hsensor, ?_, ?_, ?_⟩
  · exact hpad.motion.2 ⟨hstill, 0, by decide⟩
  · exact mt hpad.sensors.1 hstill
  · exact fun h => (htilt.motion.1 h).1 hsensor
  · exact (htilt.axes_iff hsensor "y").2 ⟨1, by decide⟩
  · rw [htilt.axes_iff hsensor]
    rintro ⟨code, hcode, hname⟩
    obtain rfl : code = 2 := by simpa [Facts.sensorAxes] using hname
    exact absurd hcode (by decide)

/-- What is said of a device that has an axis but is no sensor. -/
def stick : Facts := ⟨"Pad", none, some [0], none, []⟩

/-- An axis that a sensor would name is no sensor axis of another device. -/
theorem stick_has_no_sensor_axes :
    stick.HasAxis 0 ∧ (0, "x") ∈ Facts.sensorAxes ∧ (stick.describe 1 0).sensorAxes = [] := by
  decide

end EventNodes

end InputHub
