import InputHub.Proofs.Nesting

/-!
# Listeners that were removed

A listener can be removed at any time: between two operations, by another listener in the middle of
a round, or by itself. A round goes by the listeners that were registered as it began, so that a
removed listener may still be called by the rounds under way. Here a platform is asked for anything
at any moment, by callers and by listeners before their callbacks return (`Delivery.Step`):

* `Delivery.heard` is what a listener was told, and `Delivery.awaited` what the rounds under way
  have yet to tell it;
* `Delivery.Step.effect` says once what a step can do to these two and to the listeners;
* `Delivery.Dismissed.conserves`: once a listener is removed, every step leaves the two together as
  they are;
* `Delivery.dismissed_hears_awaited`: so it is told what it was still to be told, and nothing else;
* `Delivery.told_after_unlisten`: that can be something, if it is removed in the middle of a round.
-/

namespace InputHub.Memory

/-- What can be asked of a platform. -/
inductive Act where
  | attach (x : Descriptor)
  | change (x : Descriptor)
  | detach (device : Int32)
  | listen (l : Listener)
  | unlisten (n : Nat)
  | setAvailable (b : Bool)
  | enumerate
  | setSystemVibration (v : Option VibrationSource)
  | setSuspended (device : String) (axes : List String) (suspend : Bool)

/-- Who is to be told of which change of which device. -/
def Task.callback? : Task → Option (Nat × Change × Int32)
  | tell n _ change device => some (n, change, device)
  | react .. => none

namespace Delivery

/-- A platform that something was asked of. A round comes before all that is left to do. -/
def act (d : Delivery) : Act → Delivery
  | .attach x => { d with platform := d.platform.put x }.tellAll .added x.platformId
  | .change x => { d with platform := d.platform.put x }.tellAll .changed x.platformId
  | .detach device => d.detach device
  | .listen l => { d with platform := (d.platform.listen l).2 }
  | .unlisten n => { d with platform := d.platform.unlisten n }
  | .setAvailable b => { d with platform := d.platform.setAvailable b }
  | .enumerate => { d with platform := d.platform.enumerate.2 }
  | .setSystemVibration v => { d with platform := { d.platform with systemVibration := v } }
  | .setSuspended device axes suspend =>
    { d with platform := d.platform.setSuspended device axes suspend }

/-- The next thing that happens: a piece of work is done, or something is asked of the platform, by
somebody outside or by the listener whose turn it is. -/
inductive Step (d : Delivery) : Delivery → Prop
  | work {e : Delivery} : d.step? = some e → Step d e
  | act (a : Act) : Step d (d.act a)

/-- Any number of things happen. -/
abbrev Run : Delivery → Delivery → Prop := Relation.ReflTransGen Step

/-- The callbacks that the rounds under way have yet to make, in their order. -/
def pending (d : Delivery) : List (Nat × Change × Int32) := d.agenda.filterMap Task.callback?

/-- What the listener under a number was told. -/
def heard (n : Nat) (d : Delivery) : List (Nat × Change × Int32) :=
  d.callbacks.filter fun c => c.1 = n

/-- What the rounds under way have yet to tell the listener under a number. -/
def awaited (n : Nat) (d : Delivery) : List (Nat × Change × Int32) :=
  d.pending.filter fun c => c.1 = n

variable {d e : Delivery} {n : Nat}

/-! ## All that a step can do -/

/-- Listeners may have come, under numbers that were not given before, or have gone. -/
structure Relisted (p q : MemoryPlatform Listener) : Prop where
  next_le : p.nextListener ≤ q.nextListener
  listed {n : Nat} : n ∈ q.listeners → n ∈ p.listeners ∨ p.nextListener ≤ n ∧ n < q.nextListener

theorem Relisted.of_eq {p q : MemoryPlatform Listener} (hl : q.listeners = p.listeners)
    (hn : q.nextListener = p.nextListener) : Relisted p q :=
  ⟨Nat.le_of_eq hn.symm, fun h => .inl (hl ▸ h)⟩

/-- What a step does to the callbacks that were made and to those that are pending. -/
inductive Effect (d e : Delivery) : Prop
  /-- The next callback is made. -/
  | calls (c : Nat × Change × Int32) (hplatform : e.platform = d.platform)
      (hmade : e.callbacks = d.callbacks ++ [c]) (hpending : d.pending = c :: e.pending)
  /-- A round is fired, for the listeners that there are. -/
  | fires (change : Change) (device : Int32) (hlisted : Relisted d.platform e.platform)
      (hmade : e.callbacks = d.callbacks)
      (hpending : e.pending =
        d.platform.listeners.keys.map (fun n => (n, change, device)) ++ d.pending)
  | quiet (hlisted : Relisted d.platform e.platform) (hmade : e.callbacks = d.callbacks)
      (hpending : e.pending = d.pending)

theorem pending_tellAll (d : Delivery) (change : Change) (device : Int32) :
    (d.tellAll change device).pending =
      d.platform.listeners.keys.map (fun n => (n, change, device)) ++ d.pending := by
  rw [pending, tellAll, List.filterMap_append, List.filterMap_map,
    ← Std.TreeMap.map_fst_toList_eq_keys, List.map_map, ← List.filterMap_eq_map]
  rfl

/-- A round about a change of the devices. -/
theorem effect_tellAll {p : MemoryPlatform Listener} (hl : p.listeners = d.platform.listeners)
    (hn : p.nextListener = d.platform.nextListener) (change : Change) (device : Int32) :
    Effect d ({ d with platform := p }.tellAll change device) := by
  refine .fires change device (.of_eq hl hn) rfl ?_
  rw [pending_tellAll, hl]
  rfl

theorem effect_detach (d : Delivery) (device : Int32) : Effect d (d.detach device) := by
  unfold detach
  split
  · exact effect_tellAll (p := d.platform.remove device) rfl rfl .removed device
  · exact .quiet (.of_eq rfl rfl) rfl rfl

theorem relisted_unlisten (p : MemoryPlatform Listener) (n : Nat) : Relisted p (p.unlisten n) :=
  ⟨Nat.le_refl _, fun h => .inl (Std.TreeMap.mem_of_mem_erase h)⟩

theorem relisted_listen (p : MemoryPlatform Listener) (l : Listener) :
    Relisted p (p.listen l).2 where
  next_le := Nat.le_succ _
  listed {n} h := by
    rcases Std.TreeMap.mem_insert.1 h with heq | h
    · rw [Std.LawfulEqCmp.compare_eq_iff_eq] at heq
      subst heq
      exact .inr ⟨Nat.le_refl _, Nat.lt_succ_self _⟩
    · exact .inl h

theorem relisted_enumerate (p : MemoryPlatform Listener) : Relisted p p.enumerate.2 := by
  unfold MemoryPlatform.enumerate
  split <;> exact .of_eq rfl rfl

theorem effect_act (d : Delivery) (a : Act) : Effect d (d.act a) := by
  cases a with
  | attach x => exact effect_tellAll (p := d.platform.put x) rfl rfl .added x.platformId
  | change x => exact effect_tellAll (p := d.platform.put x) rfl rfl .changed x.platformId
  | detach device => exact effect_detach d device
  | listen l => exact .quiet (relisted_listen d.platform l) rfl rfl
  | unlisten n => exact .quiet (relisted_unlisten d.platform n) rfl rfl
  | enumerate => exact .quiet (relisted_enumerate d.platform) rfl rfl
  | setAvailable | setSystemVibration | setSuspended => exact .quiet (.of_eq rfl rfl) rfl rfl

theorem effect_perform (d : Delivery) (m : Nat) (reaction : Reaction) :
    Effect d (d.perform m reaction) := by
  cases reaction with
  | detach device => exact effect_detach d device
  | unlisten n => exact effect_act d (.unlisten n)
  | goOffline => exact effect_act d (.setAvailable false)
  | enumerate =>
    refine .quiet (relisted_enumerate d.platform) ?_ rfl
    simp [perform, callbacks, Call.callback?]

theorem Step.effect (h : Step d e) : Effect d e := by
  cases h with
  | act a => exact effect_act d a
  | work hstep =>
    obtain ⟨p, agenda, calls⟩ := d
    cases agenda with
    | nil => simp [step?] at hstep
    | cons t below =>
      cases t with
      | tell m l change device =>
        rw [step?_tell rfl] at hstep
        obtain rfl := Option.some.inj hstep
        refine .calls (m, change, device) rfl (callbacks_told ..) ?_
        have hreact : ((l.react change device calls).map (Task.react m)).filterMap
            Task.callback? = [] := by
          simp [List.filterMap_eq_nil_iff, Task.callback?]
        rw [pending, pending, List.filterMap_append, hreact]
        rfl
      | react m reaction =>
        simp only [step?, Option.some.injEq] at hstep
        subst hstep
        -- The reaction itself is no callback, so it makes no difference that it is off the agenda.
        cases effect_perform ⟨p, below, calls⟩ m reaction with
        | calls c hplatform hmade hpending => exact .calls c hplatform hmade hpending
        | fires change device hlisted hmade hpending =>
          exact .fires change device hlisted hmade hpending
        | quiet hlisted hmade hpending => exact .quiet hlisted hmade hpending

theorem Effect.relisted : Effect d e → Relisted d.platform e.platform
  | .calls _ hplatform _ _ => hplatform ▸ .of_eq rfl rfl
  | .fires _ _ hlisted _ _ | .quiet hlisted _ _ => hlisted

theorem Effect.callbacks_grow : Effect d e → d.callbacks <+: e.callbacks
  | .calls _ _ hmade _ => hmade ▸ List.prefix_append ..
  | .fires _ _ _ hmade _ | .quiet _ hmade _ => hmade ▸ List.prefix_refl _

/-! ## Removed listeners -/

/-- A number that was given to a listener which has been removed. -/
structure Dismissed (n : Nat) (d : Delivery) : Prop where
  given : n < d.platform.nextListener
  gone : n ∉ d.platform.listeners

/-- Numbers are given in ascending order. -/
def Numbered (d : Delivery) : Prop := ∀ n ∈ d.platform.listeners, n < d.platform.nextListener

theorem Numbered.effect (hd : d.Numbered) (h : Effect d e) : e.Numbered := by
  intro n hn
  rcases h.relisted.listed hn with hn | ⟨-, hlt⟩
  · exact Nat.lt_of_lt_of_le (hd n hn) h.relisted.next_le
  · exact hlt

theorem numbered_of_run (h : Run (idle .empty) d) : d.Numbered := by
  induction h with
  | refl =>
    intro n hn
    exact absurd hn Std.TreeMap.not_mem_emptyc
  | tail _ hstep ih => exact ih.effect hstep.effect

theorem Dismissed.effect (hd : Dismissed n d) (h : Effect d e) : Dismissed n e where
  given := Nat.lt_of_lt_of_le hd.given h.relisted.next_le
  gone hn := by
    rcases h.relisted.listed hn with hn | ⟨hle, -⟩
    · exact hd.gone hn
    · exact absurd hd.given (Nat.not_lt_of_le hle)

theorem Run.next_le (h : Run d e) : d.platform.nextListener ≤ e.platform.nextListener := by
  induction h with
  | refl => exact Nat.le_refl _
  | tail _ hstep ih => exact Nat.le_trans ih hstep.effect.relisted.next_le

/-- A step either makes the first of the callbacks that a removed listener awaits, or changes
neither what it was told nor what it awaits. -/
theorem Dismissed.conserves (hd : Dismissed n d) (h : Effect d e) :
    heard n e ++ awaited n e = heard n d ++ awaited n d := by
  cases h with
  | calls c hplatform hmade hpending =>
    rw [heard, heard, awaited, awaited, hmade, hpending, List.filter_append, List.append_assoc,
      ← List.filter_append]
    rfl
  | fires change device hlisted hmade hpending =>
    have hnone : (d.platform.listeners.keys.map fun m => (m, change, device)).filter
        (fun c => c.1 = n) = [] := by
      rw [List.filter_eq_nil_iff]
      intro c hc heq
      obtain ⟨m, hm, rfl⟩ := List.mem_map.1 hc
      obtain rfl : m = n := by simpa using heq
      exact hd.gone (Std.TreeMap.mem_keys.1 hm)
    rw [heard, heard, awaited, awaited, hmade, hpending, List.filter_append, hnone,
      List.nil_append]
  | quiet hlisted hmade hpending => rw [heard, heard, awaited, awaited, hmade, hpending]

theorem Dismissed.run (hd : Dismissed n d) (h : Run d e) :
    Dismissed n e ∧ heard n e ++ awaited n e = heard n d ++ awaited n d := by
  induction h with
  | refl => exact ⟨hd, rfl⟩
  | tail _ hstep ih =>
    obtain ⟨hdismissed, hsame⟩ := ih
    exact ⟨hdismissed.effect hstep.effect, (hdismissed.conserves hstep.effect).trans hsame⟩

/-- What a listener was told is never taken back. -/
theorem heard_grows (n : Nat) (h : Run d e) : heard n d <+: heard n e := by
  induction h with
  | refl => exact List.prefix_refl _
  | tail _ hstep ih => exact ih.trans (hstep.effect.callbacks_grow.filter _)

theorem Works.run (h : Works d e) : Run d e :=
  Relation.ReflTransGen.mono (fun _ _ => .work) _ _ h

/-- All the work there is can be done. -/
theorem run_run (d : Delivery) : Run d d.run ∧ d.run.agenda = [] := by
  induction d using run.induct with
  | case1 d hnone =>
    rw [run_of_done hnone]
    exact ⟨.refl, step?_eq_none_iff.1 hnone⟩
  | case2 d e hsome ih =>
    rw [run_of_step? hsome]
    exact ⟨.head (.work hsome) ih.1, ih.2⟩

/-- A listener that was registered under a number and has been removed is told, from then on, what
the rounds under way had yet to tell it, in their order, and nothing else, whatever is asked of the
platform and whoever asks. So it is told nothing more exactly if no round under way had yet to call
it. -/
theorem dismissed_hears_awaited {d₀ d : Delivery} {n : Nat} (hrun : Run (idle .empty) d₀)
    (hlisted : n ∈ d₀.platform.listeners) (hlater : Run d₀ d) (hgone : n ∉ d.platform.listeners) :
    (∀ e, Run d e → heard n e ++ awaited n e = heard n d ++ awaited n d) ∧
    ((∀ e, Run d e → heard n e = heard n d) ↔ awaited n d = []) := by
  have hdismissed : Dismissed n d :=
    ⟨Nat.lt_of_lt_of_le (numbered_of_run hrun n hlisted) hlater.next_le, hgone⟩
  refine ⟨fun e he => (hdismissed.run he).2, fun hsilent => ?_, fun hnone e he => ?_⟩
  · -- Once all the work is done, nothing is awaited any more.
    obtain ⟨hall, hdone⟩ := run_run d
    have hend := (hdismissed.run hall).2
    have hawaited : awaited n d.run = [] := by rw [awaited, pending, hdone]; rfl
    rw [hsilent _ hall, hawaited, List.append_nil] at hend
    exact List.self_eq_append_right.1 hend
  · have hsame := (hdismissed.run he).2
    rw [hnone, List.append_nil] at hsame
    have hback : heard n e <+: heard n d := ⟨awaited n e, hsame⟩
    exact hback.eq_of_length_le (heard_grows n he).length_le

/-- Two listeners, given by what they do when they are told, as a round about a pad begins. -/
def pair (first second : List Reaction) : Delivery :=
  (((idle .empty).act (.listen ⟨fun _ _ _ => first⟩)).act (.listen ⟨fun _ _ _ => second⟩)).act
    (.attach (.bare 1 "Mock" "Pad"))

theorem run_pair (first second : List Reaction) : Run (idle .empty) (pair first second) :=
  ((Relation.ReflTransGen.single (.act _)).tail (.act _)).tail (.act _)

/-- The second listener removes the first one, which was told of the pad before: it is told nothing
more. -/
theorem dismissed_hears_awaited_pair :
    0 ∉ (workFor 3 (pair [] [.unlisten 0])).platform.listeners ∧
    ∀ e, Run (workFor 3 (pair [] [.unlisten 0])) e → heard 0 e = [(0, .added, 1)] := by
  have hgone : 0 ∉ (workFor 3 (pair [] [.unlisten 0])).platform.listeners := by decide +kernel
  have hheard : heard 0 (workFor 3 (pair [] [.unlisten 0])) = [(0, .added, 1)] := by
    decide +kernel
  refine ⟨hgone, fun e he => ?_⟩
  rw [← hheard]
  exact (dismissed_hears_awaited (run_pair [] [.unlisten 0]) (by decide +kernel)
    (works_workFor 3 _).run hgone).2.2 (by decide +kernel) e he

/-- A listener can be told of a change after it was removed: the first one removes the second, whose
turn in the same round is still to come. -/
theorem told_after_unlisten : ¬∀ (d₀ d e : Delivery) (n : Nat), Run (idle .empty) d₀ →
    n ∈ d₀.platform.listeners → Run d₀ d → n ∉ d.platform.listeners → Run d e →
      heard n e = heard n d := by
  intro h
  have htold := h (pair [.unlisten 1] []) (workFor 2 (pair [.unlisten 1] []))
    (workFor 3 (pair [.unlisten 1] [])) 1 (run_pair [.unlisten 1] []) (by decide +kernel)
    (works_workFor 2 _).run (by decide +kernel) (works_workFor 1 (workFor 2 _)).run
  exact absurd htold (by decide +kernel)

end Delivery

end InputHub.Memory
