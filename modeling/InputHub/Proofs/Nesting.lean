import Mathlib.Logic.Relation
import Mathlib.Tactic.Tauto
import InputHub.Memory.Delivery

/-!
# Rounds within rounds

A listener that is told of a change may detach devices, remove listeners or make the platform
unavailable before the next listener is told. Every device that it detaches starts a round of its
own, in which the other listeners may do the same. `Delivery.Round` says what such a round looks
like, down to the rounds that are fired inside it: it is made of whole turns, a turn of a callback
and the listener's reactions to it, and a reaction leaves the devices alone or fires one whole round
before the next reaction.

* `Delivery.step?_react` says all that a reaction can do;
* `Delivery.exists_round`: whatever the listeners do, a round comes to its end;
* `Delivery.Round.leaves`: the devices about which rounds are fired in a round are those that leave
  the platform meanwhile, each once;
* `operations_tell` has all this for each operation of a platform.
-/

namespace InputHub.Memory

/-- Who was told of which change of which device. -/
def Call.callback? : Call → Option (Nat × Change × Int32)
  | told n change device => some (n, change, device)
  | saw .. => none

namespace Delivery

/-- All callbacks so far, in their order. -/
def callbacks (d : Delivery) : List (Nat × Change × Int32) := d.calls.filterMap Call.callback?

/-- Some pieces of work are done one after the other. -/
abbrev Works : Delivery → Delivery → Prop := Relation.ReflTransGen fun d e => d.step? = some e

/-! ## What a round is -/

/-- A listener's turn in a round: its number, and all devices that are detached before its callback
returns. -/
structure Turn where
  listener : Nat
  detached : List Int32

mutual

/-- A whole round about a change of a device: each listener that is registered as it begins has one
turn, in the order of their numbers, and then that is left to do which was left before. -/
inductive Round : Change → Int32 → Delivery → List Turn → Delivery → Prop
  | intro {change : Change} {device : Int32} {d e : Delivery} {turns : List Turn}
      (hturns : Turns change device (d.tellAll change device) turns e)
      (hall : turns.map Turn.listener = d.platform.listeners.keys)
      (hleft : e.agenda = d.agenda) : Round change device d turns e

/-- Turns one after the other: the listener is called once, and reacts until its callback returns to
what stands below it on the agenda. -/
inductive Turns : Change → Int32 → Delivery → List Turn → Delivery → Prop
  | done {change : Change} {device : Int32} {d : Delivery} : Turns change device d [] d
  | next {change : Change} {device : Int32} {d called d' e : Delivery} {n : Nat} {l : Listener}
      {below : List Task} {detached : List Int32} {turns : List Turn}
      (hturn : d.agenda = .tell n l change device :: below)
      (hcall : d.step? = some called)
      (htold : called.callbacks = d.callbacks ++ [(n, change, device)])
      (hreacts : Reacts n below called detached d')
      (hturns : Turns change device d' turns e) :
      Turns change device d (⟨n, detached⟩ :: turns) e

/-- The reactions of a listener, one after the other. Most change no device and call nobody. If one
detaches a device, the whole round about that comes before the next. -/
inductive Reacts : Nat → List Task → Delivery → List Int32 → Delivery → Prop
  | returns {n : Nat} {d : Delivery} : Reacts n d.agenda d [] d
  | quiet {n : Nat} {below : List Task} {d d' e : Delivery} {reaction : Reaction}
      {detached : List Int32}
      (hreact : d.agenda = .react n reaction :: d'.agenda)
      (hstep : d.step? = some d')
      (hsilent : d'.callbacks = d.callbacks)
      (hdevices : d'.platform.devices = d.platform.devices)
      (hrest : Reacts n below d' detached e) : Reacts n below d detached e
  | detaches {n : Nat} {below more : List Task} {d d' e : Delivery} {device : Int32}
      {turns : List Turn} {detached : List Int32}
      (hreact : d.agenda = .react n (.detach device) :: more)
      (hthere : device ∈ d.platform.devices)
      (hstep : d.step? =
        some ((⟨d.platform.remove device, more, d.calls⟩ : Delivery).tellAll .removed device))
      (hround : Round .removed device ⟨d.platform.remove device, more, d.calls⟩ turns d')
      (hrest : Reacts n below d' detached e) :
      Reacts n below d (device :: turns.flatMap Turn.detached ++ detached) e

end

variable {change : Change} {device : Int32} {d d' e : Delivery} {n : Nat} {l : Listener}
  {below : List Task} {turns : List Turn} {detached : List Int32} {reaction : Reaction}

/-! ## Pieces of work -/

/-- A listener that is told is called, and its reactions come next. -/
theorem step?_tell (h : d.agenda = .tell n l change device :: below) :
    d.step? = some ⟨d.platform, (l.react change device d.calls).map (.react n) ++ below,
      d.calls ++ [.told n change device]⟩ := by
  rw [step?, h]

theorem platform_of_tell (h : d.agenda = .tell n l change device :: below)
    (hstep : d.step? = some e) : e.platform = d.platform := by
  rw [step?_tell h] at hstep
  obtain rfl := Option.some.inj hstep
  rfl

theorem callbacks_told (p : MemoryPlatform Listener) (agenda : List Task) (calls : List Call) :
    (⟨p, agenda, calls ++ [.told n change device]⟩ : Delivery).callbacks =
      (⟨p, below, calls⟩ : Delivery).callbacks ++ [(n, change, device)] := by
  simp [callbacks, Call.callback?]

/-- All that a reaction can do: it calls nobody and leaves the devices alone, or it detaches a
device that is there and puts the round about that on the agenda. -/
theorem step?_react (h : d.agenda = .react n reaction :: below) :
    (∃ d', d.step? = some d' ∧ d'.agenda = below ∧ d'.callbacks = d.callbacks ∧
      d'.platform.devices = d.platform.devices) ∨
    ∃ device, reaction = .detach device ∧ device ∈ d.platform.devices ∧ d.step? =
      some ((⟨d.platform.remove device, below, d.calls⟩ : Delivery).tellAll .removed device) := by
  have hstep : d.step? = some ({ d with agenda := below }.perform n reaction) := by rw [step?, h]
  rw [hstep]
  cases reaction with
  | detach device =>
    by_cases hthere : d.platform.devices.contains device = true
    · refine .inr ⟨device, rfl, Std.TreeMap.contains_iff_mem.1 hthere, ?_⟩
      rw [perform, detach, if_pos hthere]
    · refine .inl ⟨_, rfl, ?_⟩
      rw [perform, detach, if_neg hthere]
      exact ⟨rfl, rfl, rfl⟩
  | unlisten m => exact .inl ⟨_, rfl, rfl, rfl, rfl⟩
  | goOffline => exact .inl ⟨_, rfl, rfl, rfl, rfl⟩
  | enumerate =>
    refine .inl ⟨_, rfl, rfl, ?_, ?_⟩
    · simp [perform, callbacks, Call.callback?]
    · simp only [perform, MemoryPlatform.enumerate]
      split <;> rfl

theorem size_devices_le (h : Works d e) : e.platform.devices.size ≤ d.platform.devices.size := by
  induction h with
  | refl => exact Nat.le_refl _
  | tail _ hstep ih =>
    refine Nat.le_trans ?_ ih
    rcases Prod.lex_def.1 (step?_left hstep) with hlt | ⟨heq, -⟩
    · exact Nat.le_of_lt hlt
    · exact Nat.le_of_eq heq

mutual

/-- A round is what the platform does from its beginning on. -/
theorem Round.works {change : Change} {device : Int32} {d e : Delivery} {turns : List Turn} :
    Round change device d turns e → Works (d.tellAll change device) e
  | .intro hturns _ _ => hturns.works

theorem Turns.works {change : Change} {device : Int32} {d e : Delivery} {turns : List Turn} :
    Turns change device d turns e → Works d e
  | .done => .refl
  | .next _ hcall _ hreacts hturns => .head hcall (hreacts.works.trans hturns.works)

theorem Reacts.works {n : Nat} {below : List Task} {d e : Delivery} {detached : List Int32} :
    Reacts n below d detached e → Works d e
  | .returns => .refl
  | .quiet _ hstep _ _ hrest => .head hstep hrest.works
  | .detaches _ _ hstep hround hrest => .head hstep (hround.works.trans hrest.works)

end

theorem Round.agenda_eq : Round change device d turns e → e.agenda = d.agenda
  | .intro _ _ hleft => hleft

theorem Round.listeners_eq :
    Round change device d turns e → turns.map Turn.listener = d.platform.listeners.keys
  | .intro _ hall _ => hall

/-! ## Devices that leave -/

/-- The devices of a list leave a platform, each once, and no others leave or come. -/
structure Leaves (gone : List Int32) (p q : MemoryPlatform Listener) : Prop where
  nodup : gone.Nodup
  mem_iff (x : Int32) : x ∈ gone ↔ x ∈ p.devices ∧ x ∉ q.devices
  stayed {x : Int32} : x ∈ q.devices → x ∈ p.devices

theorem Leaves.of_eq {p q : MemoryPlatform Listener} (h : q.devices = p.devices) :
    Leaves [] p q where
  nodup := .nil
  mem_iff x := by simp [h]
  stayed hx := h ▸ hx

theorem Leaves.trans {gone gone' : List Int32} {p q r : MemoryPlatform Listener}
    (h : Leaves gone p q) (h' : Leaves gone' q r) : Leaves (gone ++ gone') p r where
  nodup := by
    refine List.nodup_append.2 ⟨h.nodup, h'.nodup, fun x hx y hy hxy => ?_⟩
    -- What left first is not there to leave again.
    exact ((h.mem_iff x).1 hx).2 (hxy ▸ ((h'.mem_iff y).1 hy).1)
  mem_iff x := by
    have hstayed := @h.stayed x
    have hstayed' := @h'.stayed x
    rw [List.mem_append, h.mem_iff, h'.mem_iff]
    tauto
  stayed hx := h.stayed (h'.stayed hx)

theorem Leaves.remove {p : MemoryPlatform Listener} (h : device ∈ p.devices) :
    Leaves [device] p (p.remove device) where
  nodup := by simp
  mem_iff x := by
    have hmem : x ∈ (p.remove device).devices ↔ device ≠ x ∧ x ∈ p.devices := by
      simp [MemoryPlatform.remove, Std.TreeMap.mem_erase]
    rw [List.mem_singleton, hmem]
    by_cases hx : device = x
    · subst hx
      simp [h]
    · have hother : x ≠ device := Ne.symm hx
      simp [hx, hother]
  stayed hx := (Std.TreeMap.mem_erase.1 hx).2

mutual

/-- In the course of a round those devices leave the platform about which rounds are fired in it,
and each of them once. -/
theorem Round.leaves {change : Change} {device : Int32} {d e : Delivery} {turns : List Turn} :
    Round change device d turns e → Leaves (turns.flatMap Turn.detached) d.platform e.platform
  | .intro hturns _ _ => hturns.leaves

theorem Turns.leaves {change : Change} {device : Int32} {d e : Delivery} {turns : List Turn} :
    Turns change device d turns e → Leaves (turns.flatMap Turn.detached) d.platform e.platform
  | .done => .of_eq rfl
  | .next hturn hcall _ hreacts hturns => by
    have hleaves := hreacts.leaves
    rw [platform_of_tell hturn hcall] at hleaves
    exact hleaves.trans hturns.leaves

theorem Reacts.leaves {n : Nat} {below : List Task} {d e : Delivery} {detached : List Int32} :
    Reacts n below d detached e → Leaves detached d.platform e.platform
  | .returns => .of_eq rfl
  | .quiet _ _ _ hdevices hrest => (Leaves.of_eq hdevices).trans hrest.leaves
  | .detaches _ hthere _ hround hrest =>
    ((Leaves.remove hthere).trans hround.leaves).trans hrest.leaves

end

/-! ## Every round ends -/

/-- The listener's reactions come to their end, if every round does that begins with fewer devices
than there are now. -/
theorem exists_reacts (reactions : List Reaction) (below : List Task)
    (hagenda : d.agenda = reactions.map (.react n) ++ below)
    (hrounds : ∀ (x : Int32) (c : Delivery), c.platform.devices.size < d.platform.devices.size →
      ∃ turns e, Round .removed x c turns e) :
    ∃ detached e, Reacts n below d detached e ∧ e.agenda = below := by
  induction reactions generalizing d with
  | nil =>
    obtain rfl : d.agenda = below := hagenda
    exact ⟨[], d, .returns, rfl⟩
  | cons reaction reactions ih =>
    rcases step?_react hagenda with ⟨d', hstep, hmore, hsilent, hdevices⟩ |
      ⟨x, rfl, hthere, hstep⟩
    · rw [← hdevices] at hrounds
      obtain ⟨detached, e, hreacts, hend⟩ := ih hmore hrounds
      have hhead : d.agenda = .react n reaction :: d'.agenda := by rw [hagenda, hmore]; rfl
      exact ⟨detached, e, .quiet hhead hstep hsilent hdevices hreacts, hend⟩
    · have hfewer : (d.platform.remove x).devices.size < d.platform.devices.size :=
        MemoryPlatform.size_remove_lt hthere
      obtain ⟨turns, d', hround⟩ := hrounds x
        ⟨d.platform.remove x, reactions.map (.react n) ++ below, d.calls⟩ hfewer
      have hsize : d'.platform.devices.size < d.platform.devices.size :=
        Nat.lt_of_le_of_lt (size_devices_le hround.works) hfewer
      obtain ⟨detached, e, hreacts, hend⟩ :=
        ih hround.agenda_eq fun y c hc => hrounds y c (Nat.lt_trans hc hsize)
      exact ⟨_, e, .detaches hagenda hthere hstep hround hreacts, hend⟩

/-- The turns of a round come to their end, one after the other. -/
theorem exists_turns (listeners : List (Nat × Listener)) (below : List Task)
    (hagenda : d.agenda = listeners.map (fun l => .tell l.1 l.2 change device) ++ below)
    (hrounds : ∀ (x : Int32) (c : Delivery), c.platform.devices.size < d.platform.devices.size →
      ∃ turns e, Round .removed x c turns e) :
    ∃ turns e, Turns change device d turns e ∧
      turns.map Turn.listener = listeners.map Prod.fst ∧ e.agenda = below := by
  induction listeners generalizing d with
  | nil => exact ⟨[], d, .done, rfl, hagenda⟩
  | cons l listeners ih =>
    obtain ⟨n, l⟩ := l
    have hcall := step?_tell hagenda
    obtain ⟨detached, d', hreacts, hleft⟩ := exists_reacts (n := n)
      (d := ⟨d.platform, _, d.calls ++ [.told n change device]⟩) (l.react change device d.calls)
      (listeners.map (fun l => .tell l.1 l.2 change device) ++ below) rfl hrounds
    have hsize := size_devices_le hreacts.works
    obtain ⟨turns, e, hturns, hall, hend⟩ :=
      ih hleft fun x c hc => hrounds x c (Nat.lt_of_lt_of_le hc hsize)
    refine ⟨⟨n, detached⟩ :: turns, e,
      .next hagenda hcall (callbacks_told ..) hreacts hturns, ?_, hend⟩
    rw [List.map_cons, List.map_cons, hall]

/-- Whatever the listeners do, a round comes to its end. -/
theorem exists_round (change : Change) (device : Int32) (d : Delivery) :
    ∃ turns e, Round change device d turns e := by
  -- A round that is fired inside another one has fewer devices to begin with.
  induction hk : d.platform.devices.size using Nat.strongRecOn
    generalizing change device d with
  | ind k ih =>
    obtain ⟨turns, e, hturns, hall, hend⟩ := exists_turns (d := d.tellAll change device)
      d.platform.listeners.toList d.agenda rfl fun x c hc => ih _ (hk ▸ hc) .removed x c rfl
    rw [Std.TreeMap.map_fst_toList_eq_keys] at hall
    exact ⟨turns, e, hturns, hall, hend⟩

/-! ## Whole operations -/

theorem step?_eq_none_iff : d.step? = none ↔ d.agenda = [] := by
  rw [step?]
  split <;> simp_all

theorem run_of_step? (h : d.step? = some e) : d.run = e.run := by
  rw [run]
  split
  · rename_i hnone
    rw [hnone] at h
    cases h
  · rename_i d' hsome
    rw [hsome] at h
    rw [Option.some.inj h]

theorem run_of_done (h : d.step? = none) : d.run = d := by
  rw [run]
  split
  · rfl
  · rename_i d' hsome
    rw [hsome] at h
    cases h

theorem run_eq_of_works (h : Works d e) (hdone : e.step? = none) : d.run = e := by
  induction h using Relation.ReflTransGen.head_induction_on with
  | refl => exact run_of_done hdone
  | head hstep _ ih => rw [run_of_step? hstep, ih]

/-- The next pieces of work, but no more than a number of them. -/
def workFor : Nat → Delivery → Delivery
  | 0, d => d
  | k + 1, d =>
    match d.step? with
    | none => d
    | some e => workFor k e

theorem works_workFor (k : Nat) (d : Delivery) : Works d (workFor k d) := by
  induction k generalizing d with
  | zero => exact .refl
  | succ k ih =>
    rw [workFor]
    split
    · exact .refl
    · rename_i e hstep
      exact .head hstep (ih e)

/-- A number of pieces of work that leaves nothing to do is all the work there is. -/
theorem run_eq_workFor (k : Nat) (h : (workFor k d).agenda.isEmpty = true) :
    d.run = workFor k d :=
  run_eq_of_works (works_workFor k d) (step?_eq_none_iff.2 (List.isEmpty_iff.1 h))

/-- An operation that told of a change of a device has ended, on a platform that was `p` as the
telling began: it was one whole round, in which each listener had one turn, in ascending order of
their numbers; and the rounds that were fired inside it were about the devices that have left the
platform since, one round about each. -/
structure Tells (change : Change) (device : Int32) (p : MemoryPlatform Listener) (e : Delivery) :
    Prop where
  works : Works ((idle p).tellAll change device) e
  done : e.step? = none
  round : ∃ turns, Round change device (idle p) turns e ∧
    turns.map Turn.listener = p.listeners.keys ∧ (turns.map Turn.listener).Pairwise (· < ·) ∧
    (turns.flatMap Turn.detached).Nodup ∧
    ∀ x, x ∈ turns.flatMap Turn.detached ↔ x ∈ p.devices ∧ x ∉ e.platform.devices

theorem tells_run (change : Change) (device : Int32) (p : MemoryPlatform Listener) :
    Tells change device p ((idle p).tellAll change device).run := by
  obtain ⟨turns, e, hround⟩ := exists_round change device (idle p)
  have hdone : e.step? = none := step?_eq_none_iff.2 hround.agenda_eq
  rw [run_eq_of_works hround.works hdone]
  have hall : turns.map Turn.listener = p.listeners.keys := hround.listeners_eq
  refine ⟨hround.works, hdone, turns, hround, hall, ?_, hround.leaves.nodup, hround.leaves.mem_iff⟩
  rw [hall]
  exact Std.TreeMap.ordered_keys.imp Nat.compare_eq_lt.1

end Delivery

open Delivery

/-- Every operation of a platform ends, whatever its listeners do when they are told. Attaching a
device and describing one anew tell all listeners, and so does detaching a device that is there;
detaching one that is not there tells nobody. -/
theorem operations_tell (p : MemoryPlatform Listener) :
    (∀ x : Descriptor, Tells .added x.platformId (p.put x) (attach p x)) ∧
    (∀ x : Descriptor, Tells .changed x.platformId (p.put x) (change p x)) ∧
    (∀ device ∈ p.devices, Tells .removed device (p.remove device) (detach p device)) ∧
    ∀ device ∉ p.devices, detach p device = idle p := by
  refine ⟨fun x => tells_run .added x.platformId (p.put x),
    fun x => tells_run .changed x.platformId (p.put x), fun device hthere => ?_,
    fun device hgone => ?_⟩
  · have hin : (idle p).platform.devices.contains device = true :=
      Std.TreeMap.contains_iff_mem.2 hthere
    rw [detach, Delivery.detach, if_pos hin]
    exact tells_run .removed device (p.remove device)
  · have hout : ¬(idle p).platform.devices.contains device = true :=
      fun h => hgone (Std.TreeMap.contains_iff_mem.1 h)
    rw [detach, Delivery.detach, if_neg hout]
    exact run_of_done rfl

/-- Two pads and three listeners. When one pad is detached, the first two listeners detach the other
one, and the first removes the third. -/
def twoPads : MemoryPlatform Listener :=
  let other : Listener := ⟨fun _ device _ => [.detach (3 - device)]⟩
  let first : Listener := ⟨fun _ device _ => [.unlisten 2, .detach (3 - device)]⟩
  let silent : Listener := ⟨fun _ _ _ => []⟩
  (((((MemoryPlatform.empty.put (.bare 1 "Mock" "Pad")).put (.bare 2 "Mock" "Pad")).listen
    first).2.listen other).2.listen silent).2

/-- The round about the second pad lies inside the first callback of the round about the first one.
It calls two listeners, since the third has been removed, while the outer round still calls all
three. -/
theorem operations_tell_twoPads :
    1 ∈ twoPads.devices ∧ Tells .removed 1 (twoPads.remove 1) (detach twoPads 1) ∧
    (detach twoPads 1).callbacks =
      [(0, .removed, 1), (0, .removed, 2), (1, .removed, 2), (1, .removed, 1),
        (2, .removed, 1)] := by
  have hthere : 1 ∈ twoPads.devices := by decide +kernel
  refine ⟨hthere, (operations_tell twoPads).2.2.1 1 hthere, ?_⟩
  rw [detach, run_eq_workFor 12 (by decide +kernel)]
  decide +kernel

end InputHub.Memory
