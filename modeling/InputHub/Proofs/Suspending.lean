import Mathlib.Data.List.Induction
import Mathlib.Data.String.Basic
import InputHub.Hub.Routing

/-!
# The last word on an axis

The axes of a device are suspended and resumed in groups, which may overlap, repeat an axis or name
none. A platform keeps the suspended axes of those devices that have any, and of some that have none
any more; the core is only told. On both sides an axis follows the last notification that named it:

* `Sampling.isSuspended_set`: what one notification does to one axis;
* `Sampling.lastWord?` reads the state of an axis off the notifications, and `CoreCall.replay` off
  the calls that a core received;
* `Hub.sampling_follows_lastWord`: after any notifications both agree with the platform.
-/

namespace InputHub

namespace Sampling

/-- Whether an axis is suspended. -/
def isSuspended (s : Sampling) (device axis : String) : Bool := (s.axesOf device).contains axis

theorem isDelivering_eq (s : Sampling) (device axis : String) :
    s.isDelivering device axis = !s.isSuspended device axis := rfl

theorem contains_foldl_insert (axes : List String) (t : Std.TreeSet String) (a : String) :
    (axes.foldl (·.insert ·) t).contains a = (axes.contains a || t.contains a) := by
  induction axes generalizing t with
  | nil => simp
  | cons b axes ih =>
    rw [List.foldl_cons, ih, Std.TreeSet.contains_insert, List.contains_cons]
    grind

theorem contains_foldl_erase (axes : List String) (t : Std.TreeSet String) (a : String) :
    (axes.foldl (·.erase ·) t).contains a = (!axes.contains a && t.contains a) := by
  induction axes generalizing t with
  | nil => simp
  | cons b axes ih =>
    rw [List.foldl_cons, ih, Std.TreeSet.contains_erase, List.contains_cons]
    grind

theorem axesOf_eq (s : Sampling) (device : String) :
    s.axesOf device = s.suspended[device]?.getD ∅ :=
  Std.TreeMap.getD_eq_getD_getElem?

theorem axesOf_suspend (s : Sampling) (device : String) (axes : List String) :
    (s.set device axes true).axesOf device = axes.foldl (·.insert ·) (s.axesOf device) := by
  simp [set, axesOf]

/-- It makes no difference to the axes of a device whether the device is still listed. -/
theorem contains_axesOf_resume (s : Sampling) (device : String) (axes : List String) (a : String) :
    ((s.set device axes false).axesOf device).contains a =
      (axes.foldl (·.erase ·) (s.axesOf device)).contains a := by
  rw [axesOf_eq, axesOf_eq]
  simp only [set, Bool.false_eq_true, if_false]
  split
  · rename_i hnone
    simp [hnone, contains_foldl_erase]
  · rename_i old hold
    rw [hold]
    split
    · rename_i hempty
      have hleft := Std.TreeSet.isEmpty_iff_forall_contains.1 hempty a
      simp [hleft]
    · simp

theorem axesOf_set_of_ne (s : Sampling) {device d : String} (h : device ≠ d)
    (axes : List String) (suspend : Bool) : (s.set device axes suspend).axesOf d = s.axesOf d := by
  unfold set
  split
  · simp [axesOf, Std.TreeMap.getD_insert, h]
  · split
    · rfl
    · simp only [axesOf]
      split
      · simp [Std.TreeMap.getD_erase, h]
      · simp [Std.TreeMap.getD_insert, h]

/-- A notification settles the axes that it names, of the device that it names, and no others. -/
theorem isSuspended_set (s : Sampling) (device : String) (axes : List String) (suspend : Bool)
    (d a : String) : (s.set device axes suspend).isSuspended d a =
      if d = device ∧ a ∈ axes then suspend else s.isSuspended d a := by
  by_cases hd : d = device
  · subst hd
    cases suspend with
    | true =>
      rw [isSuspended, axesOf_suspend, contains_foldl_insert, isSuspended]
      by_cases ha : a ∈ axes <;> simp [ha]
    | false =>
      rw [isSuspended, contains_axesOf_resume, contains_foldl_erase, isSuspended]
      by_cases ha : a ∈ axes <;> simp [ha]
  · rw [isSuspended, axesOf_set_of_ne s (Ne.symm hd), if_neg fun h => hd h.1, isSuspended]

theorem mem_suspendedAxes_iff {s : Sampling} {device axis : String} :
    axis ∈ s.suspendedAxes device ↔ s.isSuspended device axis = true :=
  Std.TreeSet.mem_toList

/-- The suspended axes of a device are listed once each, in ascending order. -/
theorem suspendedAxes_ascending (s : Sampling) (device : String) :
    (s.suspendedAxes device).Pairwise (· < ·) :=
  Std.TreeSet.ordered_toList.imp compare_lt_iff_lt.1

/-! ## Rows of notifications -/

/-- A notification: the sampling of some axes of a device is suspended or resumed. -/
structure Word where
  device : String
  axes : List String
  suspended : Bool

/-- What the last notification that names an axis of a device says about it. -/
def lastWord? (words : List Word) (device axis : String) : Option Bool :=
  (words.reverse.find? fun w => w.device = device ∧ axis ∈ w.axes).map Word.suspended

theorem lastWord?_concat (words : List Word) (w : Word) (device axis : String) :
    lastWord? (words ++ [w]) device axis =
      if device = w.device ∧ axis ∈ w.axes then some w.suspended
      else lastWord? words device axis := by
  rw [lastWord?, List.reverse_concat, List.find?_cons]
  by_cases h : device = w.device ∧ axis ∈ w.axes
  · rw [if_pos h, h.1]
    simp [h.2]
  · rw [if_neg h]
    have hother : ¬(w.device = device ∧ axis ∈ w.axes) := fun hw => h ⟨hw.1.symm, hw.2⟩
    rw [decide_eq_false hother]
    rfl

end Sampling

namespace CoreCall

/-- The axes that are suspended after a call: it assigns a value to each axis that it names. -/
def assign (suspended : String → String → Bool) : CoreCall → String → String → Bool
  | sampling device axes value =>
    axes.foldl (fun f axis d a => if d = device ∧ a = axis then value else f d a) suspended
  | _ => suspended

/-- The axes that are suspended after some calls, as a core knows it that was told nothing else. -/
def replay (calls : List CoreCall) : String → String → Bool :=
  calls.foldl assign fun _ _ => false

/-- The call that a notification makes. -/
def ofWord (w : Sampling.Word) : CoreCall := sampling w.device w.axes w.suspended

theorem assign_sampling (f : String → String → Bool) (device : String) (axes : List String)
    (value : Bool) (d a : String) : assign f (sampling device axes value) d a =
      if d = device ∧ a ∈ axes then value else f d a := by
  rw [assign]
  induction axes generalizing f with
  | nil => simp
  | cons axis axes ih =>
    rw [List.foldl_cons, ih]
    by_cases hd : d = device <;> by_cases ha : a = axis <;> simp [hd, ha]

/-- A core that replays its calls knows the last word on every axis. -/
theorem replay_map_ofWord (words : List Sampling.Word) (device axis : String) :
    replay (words.map ofWord) device axis = (Sampling.lastWord? words device axis).getD false := by
  induction words using List.reverseRecOn with
  | nil => rfl
  | append_singleton words w ih =>
    rw [List.map_append, List.map_singleton, replay, List.foldl_concat, ofWord, assign_sampling,
      Sampling.lastWord?_concat]
    split
    · rfl
    · exact ih

end CoreCall

namespace Hub

/-- The hub after a row of notifications. -/
def notifyAll (h : Hub) (words : List Sampling.Word) : Hub :=
  words.foldl (fun h w => h.notifySampling w.device w.axes w.suspended) h

theorem notifyAll_concat (h : Hub) (words : List Sampling.Word) (w : Sampling.Word) :
    h.notifyAll (words ++ [w]) =
      (h.notifyAll words).notifySampling w.device w.axes w.suspended := by
  rw [notifyAll, List.foldl_concat, notifyAll]

/-- A platform that started with nothing suspended follows the last word on every axis. -/
theorem isSuspended_notifyAll {h : Hub} (hfresh : h.platform.sampling = .all)
    (words : List Sampling.Word) (device axis : String) :
    (h.notifyAll words).platform.sampling.isSuspended device axis =
      (Sampling.lastWord? words device axis).getD false := by
  induction words using List.reverseRecOn with
  | nil =>
    rw [notifyAll, List.foldl_nil, hfresh]
    simp [Sampling.isSuspended, Sampling.axesOf, Sampling.all, Sampling.lastWord?]
  | append_singleton words w ih =>
    rw [notifyAll_concat, Sampling.lastWord?_concat]
    refine (Sampling.isSuspended_set ..).trans ?_
    split
    · rfl
    · exact ih

/-- A core that keeps its calls has kept every notification, in their order. -/
theorem calls_notifyAll {h : Hub} (hkeeps : h.core.silent = false) (words : List Sampling.Word) :
    (h.notifyAll words).core.calls = h.core.calls ++ words.map CoreCall.ofWord ∧
      (h.notifyAll words).core.silent = false := by
  induction words using List.reverseRecOn with
  | nil => exact ⟨by simp [notifyAll], hkeeps⟩
  | append_singleton words w ih =>
    rw [notifyAll_concat]
    simp [notifySampling, note, Core.record, CoreCall.ofWord, ih.1, ih.2]

/-- After any row of notifications over a fresh platform, samples of an axis are withheld exactly if
the last notification that names the axis suspends it, the suspended axes of a device are listed
once each and in ascending order, and a core that replays the calls it received has the same axes
suspended as the platform. -/
theorem sampling_follows_lastWord (config : Config) (core : Core) (words : List Sampling.Word) :
    let h := (create config core).notifyAll words
    (∀ device axis, h.platform.sampling.isDelivering device axis = false ↔
      Sampling.lastWord? words device axis = some true) ∧
    (∀ device, (h.platform.sampling.suspendedAxes device).Pairwise (· < ·) ∧
      ∀ axis, axis ∈ h.platform.sampling.suspendedAxes device ↔
        h.platform.sampling.isDelivering device axis = false) ∧
    (core.silent = false → core.calls = [] → ∀ device axis,
      CoreCall.replay h.core.calls device axis =
        !h.platform.sampling.isDelivering device axis) := by
  intro h
  have hlast (device axis : String) : h.platform.sampling.isSuspended device axis =
      (Sampling.lastWord? words device axis).getD false := isSuspended_notifyAll rfl words ..
  refine ⟨fun device axis => ?_, fun device => ⟨Sampling.suspendedAxes_ascending _ device,
    fun axis => ?_⟩, fun hkeeps hnew device axis => ?_⟩
  · rw [Sampling.isDelivering_eq, hlast, Bool.not_eq_false']
    cases Sampling.lastWord? words device axis <;> simp
  · rw [Sampling.mem_suspendedAxes_iff, Sampling.isDelivering_eq, Bool.not_eq_false']
  · have hcalls : h.core.calls = words.map CoreCall.ofWord := by
      rw [(calls_notifyAll (h := create config core) hkeeps words).1]
      exact congrArg (· ++ _) hnew
    rw [hcalls, CoreCall.replay_map_ofWord, Sampling.isDelivering_eq, hlast, Bool.not_not]

/-- Two groups of axes that overlap are suspended and one of them is resumed in part; another device
is listed without a suspended axis. -/
def overlapping : List Sampling.Word :=
  [⟨"phone", ["x", "y", "x"], true⟩, ⟨"phone", ["y", "z"], true⟩, ⟨"phone", ["y", "w"], false⟩,
    ⟨"pad", [], true⟩]

/-- The axis that both groups have is sampled again, and core and platform agree on that. -/
theorem sampling_follows_lastWord_overlapping :
    let h := (create .standard ⟨false, [], false, false, []⟩).notifyAll overlapping
    Sampling.lastWord? overlapping "phone" "y" = some false ∧
    h.platform.sampling.suspendedAxes "phone" = ["x", "z"] ∧
    CoreCall.replay h.core.calls "phone" "y" =
      !h.platform.sampling.isDelivering "phone" "y" := by
  intro h
  refine ⟨by decide +kernel, by decide +kernel, ?_⟩
  exact (sampling_follows_lastWord .standard ⟨false, [], false, false, []⟩ overlapping).2.2 rfl rfl
    "phone" "y"

end Hub

end InputHub
