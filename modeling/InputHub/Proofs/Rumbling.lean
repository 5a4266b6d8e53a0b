import Mathlib.Data.List.Infix
import InputHub.EventNodes.Rumble

/-!
# The effects that a rumble motor leaves on its device

A device has few places for effects, and an effect stays there until it is erased. Which effects are
there follows from the calls that reached the device (`slots`). A motor knows only the effect that
it keeps, and erases it before it uploads another one:

* `Careful` says of the calls to a device that no effect was uploaded next to another one, and
  `Careful.concat` that one more call keeps it so if the device is empty whenever the call uploads;
* `Rumble.Tidy` says that the device holds what its motor keeps; `Rumble.Tidy.pulse_played`,
  `Rumble.Tidy.pulse_failed` and `Rumble.Tidy.slots_cancel` say what a request leaves on it;
* `Rumble.one_effect_at_most` puts this together for every row of requests.
-/

namespace InputHub.EventNodes

/-! ## Effects on a device -/

/-- An effect on a device: its number, how long it lasts and how strong it is. -/
structure Loaded where
  number : Nat
  length : Nat
  magnitude : Nat
  deriving DecidableEq

/-- The effects of a device: how many it took so far, and those that it holds. -/
structure Slots where
  taken : Nat
  loaded : List Loaded
  deriving DecidableEq

/-- What a call does to the effects of a device. An upload adds one and an erasure removes it; calls
that fail change nothing, nor do playing and stopping. -/
def Slots.after (d : Slots) (a : Attempt) : Slots :=
  match a.reached? with
  | some (.upload length magnitude) =>
    ⟨d.taken + 1, d.loaded ++ [⟨d.taken, length, magnitude⟩]⟩
  | some (.erase effect) => { d with loaded := d.loaded.filter fun l => l.number ≠ effect }
  | _ => d

/-- The effects of a device after some calls. -/
def slots (trace : List Attempt) : Slots := trace.foldl Slots.after ⟨0, []⟩

theorem slots_concat (trace : List Attempt) (a : Attempt) :
    slots (trace ++ [a]) = (slots trace).after a := by
  simp [slots]

@[simp] theorem Slots.after_failed (d : Slots) (call : DeviceCall) (e : Errno) :
    d.after ⟨call, some e⟩ = d := rfl

@[simp] theorem Slots.after_upload (d : Slots) (length magnitude : Nat) :
    d.after ⟨.upload length magnitude, none⟩ =
      ⟨d.taken + 1, d.loaded ++ [⟨d.taken, length, magnitude⟩]⟩ := rfl

@[simp] theorem Slots.after_play (d : Slots) (effect : Nat) (fault : Option Errno) :
    d.after ⟨.play effect, fault⟩ = d := by
  cases fault <;> rfl

@[simp] theorem Slots.after_stop (d : Slots) (effect : Nat) (fault : Option Errno) :
    d.after ⟨.stop effect, fault⟩ = d := by
  cases fault <;> rfl

@[simp] theorem Slots.after_erase (d : Slots) (effect : Nat) :
    d.after ⟨.erase effect, none⟩ =
      { d with loaded := d.loaded.filter fun l => l.number ≠ effect } := rfl

/-- Effects are numbered as their motor numbers them. -/
theorem taken_slots (r : Rumble) : (slots r.trace).taken = r.uploads := by
  rw [Rumble.uploads]
  induction r.trace using List.reverseRecOn with
  | nil => rfl
  | append_singleton trace a ih =>
    rw [slots_concat, List.countP_append, ← ih]
    obtain ⟨call, fault⟩ := a
    cases fault with
    | some e => rfl
    | none => cases call <;> rfl

/-! ## Calls that never fill two places -/

/-- Of the calls to a device: at no moment did it hold two effects, and whenever an upload was tried
it held none. -/
structure Careful (trace : List Attempt) : Prop where
  few {before : List Attempt} : before <+: trace → (slots before).loaded.length ≤ 1
  clear {before : List Attempt} {length magnitude : Nat} {fault : Option Errno} :
    before ++ [⟨.upload length magnitude, fault⟩] <+: trace → (slots before).loaded = []

theorem careful_nil : Careful [] where
  few h := by
    rw [List.prefix_nil.1 h]
    exact Nat.zero_le 1
  clear h := by simp at h

/-- Only an upload can bring a device to hold more. -/
theorem Slots.length_after_le (d : Slots) (a : Attempt)
    (h : ∀ length magnitude, a.call = .upload length magnitude → d.loaded = [])
    (hfew : d.loaded.length ≤ 1) : (d.after a).loaded.length ≤ 1 := by
  obtain ⟨call, fault⟩ := a
  cases fault with
  | some e => exact hfew
  | none =>
    cases call with
    | upload length magnitude => simp [h length magnitude rfl]
    | play effect => simpa using hfew
    | stop effect => simpa using hfew
    | erase effect => exact (List.length_filter_le _ _).trans hfew

/-- One more call is careful as well if the device is empty in case that it uploads. -/
theorem Careful.concat {trace : List Attempt} (h : Careful trace) {a : Attempt}
    (ha : ∀ length magnitude, a.call = .upload length magnitude → (slots trace).loaded = []) :
    Careful (trace ++ [a]) where
  few hbefore := by
    rcases List.prefix_concat_iff.1 hbefore with rfl | hbefore
    · rw [slots_concat]
      exact (slots trace).length_after_le a ha (h.few List.prefix_rfl)
    · exact h.few hbefore
  clear hbefore := by
    rcases List.prefix_concat_iff.1 hbefore with heq | hbefore
    · obtain ⟨rfl, rfl⟩ := List.append_singleton_inj.1 heq
      exact ha _ _ rfl
    · exact h.clear hbefore

namespace Rumble

/-! ## What requests do -/

/-- A motor whose calls were careful, and whose device holds the effect that the motor keeps. -/
structure Tidy (r : Rumble) : Prop where
  careful : Careful r.trace
  kept : (slots r.trace).loaded.map Loaded.number = r.held.toList

theorem tidy_fresh (path : String) : Tidy (fresh path) := ⟨careful_nil, rfl⟩

theorem tidy_of_empty {r : Rumble} (hcareful : Careful r.trace)
    (hloaded : (slots r.trace).loaded = []) (hheld : r.held = none) : Tidy r where
  careful := hcareful
  kept := by rw [hloaded, hheld]; rfl

theorem slots_send (r : Rumble) (call : DeviceCall) (fault : Option Errno) :
    slots (r.send call fault).trace = (slots r.trace).after ⟨call, fault⟩ :=
  slots_concat r.trace ⟨call, fault⟩

namespace Tidy

variable {r : Rumble} (hr : Tidy r)
include hr

/-- Once a motor has dropped its effect, its device is empty. -/
theorem slots_drop : slots r.drop.trace = ⟨(slots r.trace).taken, []⟩ := by
  have hkept := hr.kept
  rw [drop]
  cases hheld : r.held with
  | none =>
    rw [hheld, Option.toList_none, List.map_eq_nil_iff] at hkept
    show slots r.trace = _
    rw [← hkept]
  | some effect =>
    rw [hheld, Option.toList_some] at hkept
    show slots (r.send (.erase effect) none).trace = _
    rw [slots_send, Slots.after_erase]
    congr 1
    rw [List.filter_eq_nil_iff]
    intro l hl
    have hmem : l.number ∈ (slots r.trace).loaded.map Loaded.number := List.mem_map_of_mem hl
    rw [hkept, List.mem_singleton] at hmem
    simp [hmem]

theorem careful_drop : Careful r.drop.trace := by
  rw [drop]
  cases r.held with
  | none => exact hr.careful
  | some effect => exact hr.careful.concat fun _ _ h => nomatch h

/-- An upload is tried on an empty device. -/
theorem careful_upload (length magnitude : Nat) (fault : Option Errno) :
    Careful (r.drop.send (.upload length magnitude) fault).trace := by
  refine hr.careful_drop.concat fun _ _ _ => ?_
  rw [hr.slots_drop]

theorem slots_upload (length magnitude : Nat) :
    slots (r.drop.send (.upload length magnitude) none).trace =
      ⟨(slots r.trace).taken + 1, [⟨(slots r.trace).taken, length, magnitude⟩]⟩ := by
  rw [slots_send, hr.slots_drop, Slots.after_upload, List.nil_append]

omit hr in
theorem held_drop : r.drop.held = none := by
  rw [drop]
  cases h : r.held with
  | none => exact h
  | some effect => rfl

/-- A pulse that fails leaves nothing on the device, whether it could not be uploaded or not be
played. -/
theorem pulse_failed {faults : DeviceFaults} (hfaults : faults ≠ ⟨none, none⟩) (ms : Nat)
    (amplitude : Amplitude) :
    (∃ e, (r.pulse faults ms amplitude).result = .error e) ∧
      Tidy (r.pulse faults ms amplitude).state ∧
      (slots (r.pulse faults ms amplitude).state.trace).loaded = [] := by
  obtain ⟨upload, write⟩ := faults
  cases upload with
  | some e =>
    have hslots : (slots (r.drop.send (.upload (min ms longest) (magnitude amplitude))
        (some e)).trace).loaded = [] := by
      rw [slots_send, Slots.after_failed, hr.slots_drop]
    exact ⟨⟨_, rfl⟩, tidy_of_empty (hr.careful_upload _ _ _) hslots held_drop, hslots⟩
  | none =>
    cases write with
    | none => exact absurd rfl hfaults
    | some e =>
      -- The effect is on the device while playing it is tried, and is erased under its own number.
      have hslots : (slots (((r.drop.send (.upload (min ms longest) (magnitude amplitude))
          none).send (.play r.drop.uploads) (some e)).send (.erase r.drop.uploads)
            none).trace).loaded = [] := by
        rw [slots_send, slots_send, Slots.after_failed, hr.slots_upload, Slots.after_erase,
          ← taken_slots, hr.slots_drop]
        simp
      refine ⟨⟨_, rfl⟩, tidy_of_empty ?_ hslots held_drop, hslots⟩
      refine Careful.concat (Careful.concat (hr.careful_upload _ _ _) ?_) ?_
      · exact fun _ _ h => nomatch h
      · exact fun _ _ h => nomatch h

/-- A pulse that is played leaves its own effect on the device, and no other one. -/
theorem pulse_played (ms : Nat) (amplitude : Amplitude) :
    (r.pulse ⟨none, none⟩ ms amplitude).result = .ok () ∧
      Tidy (r.pulse ⟨none, none⟩ ms amplitude).state ∧
      slots (r.pulse ⟨none, none⟩ ms amplitude).state.trace = ⟨(slots r.trace).taken + 1,
        [⟨(slots r.trace).taken, min ms longest, magnitude amplitude⟩]⟩ := by
  have hslots : slots ((r.drop.send (.upload (min ms longest) (magnitude amplitude))
      none).send (.play r.drop.uploads) none).trace = ⟨(slots r.trace).taken + 1,
        [⟨(slots r.trace).taken, min ms longest, magnitude amplitude⟩]⟩ := by
    rw [slots_send, Slots.after_play, hr.slots_upload]
  refine ⟨rfl, ⟨?_, ?_⟩, hslots⟩
  · exact (hr.careful_upload _ _ _).concat fun _ _ h => nomatch h
  · show (slots ((r.drop.send _ none).send (.play r.drop.uploads) none).trace).loaded.map _ =
      [r.drop.uploads]
    rw [hslots, ← taken_slots, hr.slots_drop]
    rfl

theorem pulse (faults : DeviceFaults) (ms : Nat) (amplitude : Amplitude) :
    Tidy (r.pulse faults ms amplitude).state := by
  by_cases hfaults : faults = ⟨none, none⟩
  · rw [hfaults]
    exact (hr.pulse_played ms amplitude).2.1
  · exact (hr.pulse_failed hfaults ms amplitude).2.1

omit hr in
/-- To cancel is at most to call for a stop, which may fail. -/
theorem cancel_state (r : Rumble) (faults : DeviceFaults) :
    (r.cancel faults).state = r ∨
      ∃ effect, (r.cancel faults).state = r.send (.stop effect) faults.write := by
  rw [Rumble.cancel]
  cases r.held with
  | none => exact .inl rfl
  | some effect =>
    refine .inr ⟨effect, ?_⟩
    cases faults.write <;> rfl

omit hr in
theorem slots_cancel (r : Rumble) (faults : DeviceFaults) :
    slots (r.cancel faults).state.trace = slots r.trace := by
  rcases cancel_state r faults with h | ⟨effect, h⟩
  · rw [h]
  · rw [h, slots_send, Slots.after_stop]

theorem cancel (faults : DeviceFaults) : Tidy (r.cancel faults).state where
  careful := by
    rcases cancel_state r faults with h | ⟨effect, h⟩
    · rw [h]
      exact hr.careful
    · rw [h]
      exact hr.careful.concat fun _ _ h => nomatch h
  kept := by
    rw [slots_cancel, hr.kept]
    rcases cancel_state r faults with h | ⟨effect, h⟩ <;> rw [h]
    rfl

/-- Every request keeps a motor tidy, whichever calls to the device fail. -/
theorem perform (faults : DeviceFaults) (request : Request) :
    Tidy ((vibrator faults).perform request r).state := by
  cases request with
  | primitive effect scale => exact hr
  | oneShot ms amplitude => exact hr.pulse faults ms amplitude
  | cancel => exact hr.cancel faults

end Tidy

/-! ## Rows of requests -/

/-- The motor after a row of requests, each with the faults of the calls that it makes. -/
def performAll (r : Rumble) (requests : List (DeviceFaults × Request)) : Rumble :=
  requests.foldl (fun r p => ((vibrator p.1).perform p.2 r).state) r

theorem Tidy.performAll {r : Rumble} (hr : Tidy r) (requests : List (DeviceFaults × Request)) :
    Tidy (r.performAll requests) := by
  induction requests generalizing r with
  | nil => exact hr
  | cons p requests ih => exact ih (hr.perform p.1 p.2)

/-- Whatever a motor is asked for and whichever calls fail: its device holds one effect at most at
every moment, and none when an upload is tried. After a pulse that succeeds it holds the effect that
was just uploaded and no other one, after a pulse that fails none, and to cancel changes nothing. -/
theorem one_effect_at_most (path : String) (requests : List (DeviceFaults × Request)) :
    let r := (fresh path).performAll requests
    (∀ before, before <+: r.trace → (slots before).loaded.length ≤ 1) ∧
    (∀ before length magnitude fault,
      before ++ [⟨.upload length magnitude, fault⟩] <+: r.trace → (slots before).loaded = []) ∧
    (∀ ms amplitude, (r.pulse ⟨none, none⟩ ms amplitude).result = .ok () ∧
      slots (r.pulse ⟨none, none⟩ ms amplitude).state.trace = ⟨(slots r.trace).taken + 1,
        [⟨(slots r.trace).taken, min ms longest, magnitude amplitude⟩]⟩) ∧
    (∀ faults ms amplitude, faults ≠ ⟨none, none⟩ →
      (∃ e, (r.pulse faults ms amplitude).result = .error e) ∧
      (slots (r.pulse faults ms amplitude).state.trace).loaded = []) ∧
    ∀ faults, slots (r.cancel faults).state.trace = slots r.trace := by
  intro r
  have hr : Tidy r := (tidy_fresh path).performAll requests
  refine ⟨fun _ => hr.careful.few, fun _ _ _ _ => hr.careful.clear, ?_, ?_, ?_⟩
  · intro ms amplitude
    obtain ⟨hresult, -, hslots⟩ := hr.pulse_played ms amplitude
    exact ⟨hresult, hslots⟩
  · intro faults ms amplitude hfaults
    obtain ⟨hresult, -, hslots⟩ := hr.pulse_failed hfaults ms amplitude
    exact ⟨hresult, hslots⟩
  · exact Tidy.slots_cancel r

/-- A pulse is played, the next one cannot be, and the one after it is the third effect that the
device takes, and the only one that it holds. -/
example : slots ((fresh "pad").performAll [(⟨none, none⟩, .oneShot 20 .standard),
      (⟨none, some ⟨19⟩⟩, .cancel), (⟨none, some ⟨19⟩⟩, .oneShot 50 .standard),
      (⟨some ⟨28⟩, none⟩, .oneShot 50 .standard), (⟨none, none⟩, .oneShot 70000 (.level 255)),
      (⟨none, none⟩, .cancel)]).trace = ⟨3, [⟨2, 65535, 65535⟩]⟩ := by
  decide +kernel

end Rumble

end InputHub.EventNodes
