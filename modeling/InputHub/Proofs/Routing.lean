import Mathlib.Data.List.Basic
import InputHub.Hub.Routing
import InputHub.Proofs.History
import InputHub.Proofs.Interleaving

/-!
# Which device an event comes from

An event is handed to the core with the device that stands under the key of its platform id. Keys
are texts of qualifiers, and where sources have slashes two qualifiers can read the same; the device
entered last then stands for both.

* `Snapshot.RoutedTo` says what the core is told of a device, `Hub.dispatch_routedTo` that every
  event is routed so, after any history of the registry;
* `Snapshot.getById?_platformId_iff`: it is the event's own device exactly when none that reads the
  same was entered after it;
* `Snapshot.not_shadowed`: no device is shadowed where no source has a slash;
* `Session.Steps.exists_history`: every snapshot of a session comes from some history.
-/

namespace InputHub

namespace Snapshot

/-! ## The last rescan of a history -/

/-- The last successful request of a history: the requests before it and the list it brought. -/
def lastRescan? : List Request → Option (List Request × List Descriptor)
  | [] => none
  | r :: rs =>
    match lastRescan? rs with
    | some (before, ds) => some (r :: before, ds)
    | none => r.found?.map fun ds => ([], ds)

/-- The list of the last successful request. -/
def reported (history : List Request) : List Descriptor :=
  (lastRescan? history).elim [] Prod.snd

/-- The devices that the last successful request entered, in this order, with their qualifiers. -/
def entries (history : List Request) : List (Descriptor × Qualifier) :=
  (lastRescan? history).elim [] fun p => (afterAll p.1).assigned p.2

theorem foldl_after (history : List Request) (s : Snapshot) :
    history.foldl after s =
      (lastRescan? history).elim s fun p => (p.1.foldl after s).rebuild p.2 := by
  induction history generalizing s with
  | nil => rfl
  | cons r rs ih =>
    rw [List.foldl_cons, ih, lastRescan?]
    cases lastRescan? rs with
    | some p => rfl
    | none =>
      rw [Option.elim_none, after_eq]
      cases r.found? <;> rfl

/-- A registry holds what was entered last. -/
theorem afterAll_eq (history : List Request) :
    ∃ g, afterAll history = (blank g).enterAll (entries history) := by
  rw [afterAll, foldl_after, entries]
  cases lastRescan? history with
  | none => exact ⟨0, rfl⟩
  | some p => exact ⟨_, rebuild_eq ..⟩

theorem lastRescan?_eq_some {history before : List Request} {ds : List Descriptor}
    (h : lastRescan? history = some (before, ds)) :
    (∀ r ∈ before, r ∈ history) ∧ ∃ r ∈ history, r.found? = some ds := by
  induction history generalizing before with
  | nil => cases h
  | cons r rs ih =>
    rw [lastRescan?] at h
    cases hrs : lastRescan? rs with
    | none =>
      rw [hrs] at h
      obtain ⟨ds', hfound, he⟩ := Option.map_eq_some_iff.1 h
      obtain ⟨rfl, rfl⟩ := Prod.mk.inj he
      exact ⟨by simp, r, List.mem_cons_self, hfound⟩
    | some p =>
      rw [hrs] at h
      obtain ⟨rfl, rfl⟩ := Prod.mk.inj (Option.some.inj h)
      obtain ⟨hsub, r', hr', hfound⟩ := ih hrs
      refine ⟨fun q hq => ?_, r', List.mem_cons_of_mem _ hr', hfound⟩
      rcases List.mem_cons.1 hq with rfl | hq
      · exact List.mem_cons_self
      · exact List.mem_cons_of_mem _ (hsub q hq)

theorem entries_ids_nodup (history : List Request) :
    ((entries history).map fun p => p.1.platformId).Nodup := by
  unfold entries
  cases lastRescan? history with
  | none => exact List.nodup_nil
  | some p => exact assigned_ids_nodup ..

theorem shows_of_entries {history : List Request} {p : Descriptor × Qualifier}
    (h : p ∈ entries history) : (Device.ofDescriptor p.1 p.2).Shows p.1 := by
  unfold entries at h
  cases hlast : lastRescan? history with
  | none => simp [hlast] at h
  | some r =>
    rw [hlast] at h
    exact shows_of_assigned h

theorem firstWith?_reported_iff {history : List Request} {d : Descriptor} :
    firstWith? (reported history) d.platformId = some d ↔ ∃ q, (d, q) ∈ entries history := by
  unfold reported entries
  cases lastRescan? history with
  | none => simp [firstWith?]
  | some p =>
    rw [Option.elim_some, Option.elim_some, ← mem_firsts_iff]
    refine ⟨exists_assigned, fun h => ?_⟩
    obtain ⟨q, hq⟩ := h
    exact mem_firsts_of_assigned hq

/-! ## Devices that read the same -/

/-- After the device of a platform id another one was entered whose qualifier reads the same. -/
def Shadowed (ps : List (Descriptor × Qualifier)) (id : Int32) : Prop :=
  ∃ before p after, ps = before ++ p :: after ∧ p.1.platformId = id ∧
    ∃ p' ∈ after, p'.2.render = p.2.render

section Entered

variable {ps : List (Descriptor × Qualifier)} (hids : (ps.map fun p => p.1.platformId).Nodup)
  {g : Nat} {id : Int32} {dev : Device}
include hids

/-- A platform id leads to the device entered last under its key. -/
theorem getById?_enterAll_iff : ((blank g).enterAll ps).getById? id = some dev ↔
    ∃ p ∈ ps, p.1.platformId = id ∧ ∃ before p' after, ps = before ++ p' :: after ∧
      p'.2.render = p.2.render ∧ (∀ q ∈ after, q.2.render ≠ p.2.render) ∧
      .ofDescriptor p'.1 p'.2 = dev := by
  rw [getById?, Option.bind_eq_some_iff]
  simp only [keys_enterAll_iff hids, get?_enterAll, Option.map_eq_some_iff]
  constructor
  · rintro ⟨-, ⟨p, hp, hid, rfl⟩, p', hfind, hdev⟩
    obtain ⟨hread, before, after, hps, hno⟩ := find?_reverse_eq_some_iff.1 hfind
    exact ⟨p, hp, hid, before, p', after, hps, hread, hno, hdev⟩
  · intro h
    obtain ⟨p, hp, hid, before, p', after, hps, hread, hno, hdev⟩ := h
    refine ⟨p.2.render, ⟨p, hp, hid, rfl⟩, p', ?_, hdev⟩
    exact find?_reverse_eq_some_iff.2 ⟨hread, before, after, hps, hno⟩

/-- Every platform id that was entered leads to a device. -/
theorem exists_getById?_enterAll (g : Nat) {p : Descriptor × Qualifier} (hp : p ∈ ps) :
    ∃ dev, ((blank g).enterAll ps).getById? p.1.platformId = some dev := by
  obtain ⟨p', hfind⟩ := exists_find?_reverse (fun p : Descriptor × Qualifier => p.2.render) hp
  obtain ⟨hread, before, after, hps, hno⟩ := find?_reverse_eq_some_iff.1 hfind
  exact ⟨_, (getById?_enterAll_iff hids).2
    ⟨p, hp, rfl, before, p', after, hps, hread, hno, rfl⟩⟩

/-- It is the device of that platform id exactly when none that reads the same came after it. -/
theorem getById?_platformId_iff (hget : ((blank g).enterAll ps).getById? id = some dev) :
    dev.platformId = id ↔ ¬ Shadowed ps id := by
  obtain ⟨p, hp, hid, before, p', after, hps, hread, hno, rfl⟩ :=
    (getById?_enterAll_iff hids).1 hget
  have hsame {a b : Descriptor × Qualifier} (ha : a ∈ ps) (hb : b ∈ ps)
      (hab : a.1.platformId = b.1.platformId) : a = b := List.inj_on_of_nodup_map hids ha hb hab
  constructor
  · intro hown ⟨before₁, p₁, after₁, hps₁, hid₁, q, hq, hread₁⟩
    obtain rfl : p₁ = p' := hsame (by simp [hps₁]) (by simp [hps]) (hid₁.trans hown.symm)
    obtain rfl : p₁ = p := hsame (by simp [hps]) hp (hid₁.trans hid.symm)
    -- Both ways to cut the list at this device are the same.
    have hnodup := hids.of_map
    rw [hps₁, List.nodup_middle, List.nodup_cons, List.mem_append, not_or] at hnodup
    obtain ⟨-, -, rfl⟩ := (List.append_cons_inj_of_notMem hnodup.1.1 hnodup.1.2).1
      (hps₁.symm.trans hps)
    exact hno q hq hread₁
  · intro hfree
    rw [hps, List.mem_append, List.mem_cons] at hp
    rcases hp with hbefore | rfl | hafter
    · -- The device found would shadow this one.
      obtain ⟨before₁, after₁, rfl⟩ := List.append_of_mem hbefore
      refine absurd ⟨before₁, p, after₁ ++ p' :: after, ?_, hid, p', by simp, hread⟩ hfree
      simp [hps]
    · exact hid
    · exact absurd rfl (hno p hafter)

end Entered

/-! ## Events -/

/-- What the core is told of the device of an event: one if the last rescan reported the platform
id, with all that this rescan said of it and with a qualifier that reads like the one given to the
event's device. It is that device exactly when it is not shadowed. -/
structure RoutedTo (history : List Request) (id : Int32) (device : Option Device) : Prop where
  isSome_iff : device.isSome ↔ id ∈ (reported history).map Descriptor.platformId
  shows {dev : Device} : device = some dev →
    ∃ d, firstWith? (reported history) dev.platformId = some d ∧ dev.Shows d
  reads {dev : Device} : device = some dev →
    ∃ p ∈ entries history, p.1.platformId = id ∧ p.2.render = dev.qualifier.render
  own {dev : Device} : device = some dev → (dev.platformId = id ↔ ¬ Shadowed (entries history) id)

theorem routedTo_getById? (history : List Request) (id : Int32) :
    RoutedTo history id ((afterAll history).getById? id) := by
  obtain ⟨g, hs⟩ := afterAll_eq history
  have hids := entries_ids_nodup history
  rw [hs]
  refine ⟨?_, fun hget => ?_, fun hget => ?_, getById?_platformId_iff hids⟩
  · rw [Option.isSome_iff_exists, List.mem_map]
    constructor
    · intro ⟨dev, hget⟩
      obtain ⟨p, hp, hid, -⟩ := (getById?_enterAll_iff hids).1 hget
      exact ⟨p.1, List.mem_of_find?_eq_some (firstWith?_reported_iff.2 ⟨p.2, hp⟩), hid⟩
    · rintro ⟨d, hd, rfl⟩
      obtain ⟨e, he⟩ := exists_firstWith? hd
      have hid := firstWith?_platformId he
      rw [← hid] at he ⊢
      obtain ⟨q, hq⟩ := firstWith?_reported_iff.1 he
      exact exists_getById?_enterAll hids g hq
  · obtain ⟨p, -, -, before, p', after, hps, -, -, rfl⟩ := (getById?_enterAll_iff hids).1 hget
    have hp' : p' ∈ entries history := by simp [hps]
    exact ⟨p'.1, firstWith?_reported_iff.2 ⟨p'.2, hp'⟩, shows_of_entries hp'⟩
  · obtain ⟨p, hp, hid, _, p', _, -, hread, -, rfl⟩ := (getById?_enterAll_iff hids).1 hget
    exact ⟨p, hp, hid, hread.symm⟩

/-- Where no source has a slash, no two qualifiers read the same. -/
theorem not_shadowed {history : List Request} (hplain : ∀ r ∈ history, r.Plain) (id : Int32) :
    ¬ Shadowed (entries history) id := by
  have hreads : ((entries history).map fun p => p.2.render).Nodup := by
    unfold entries
    cases hlast : lastRescan? history with
    | none => exact List.nodup_nil
    | some p =>
      obtain ⟨hsub, r, hr, hfound⟩ := lastRescan?_eq_some hlast
      have hs := faithful_afterAll fun r hr => hplain r (hsub r hr)
      exact hs.renders_nodup (hplain r hr p.2 hfound)
  intro ⟨before, p, after, hps, _, p', hp', hread⟩
  rw [hps, List.map_append, List.map_cons, List.nodup_middle, List.nodup_cons] at hreads
  exact hreads.1 (List.mem_append_right _ (List.mem_map.2 ⟨p', hp', hread⟩))

end Snapshot

namespace Hub

open Snapshot

/-- After any history of the registry, every key and motion event is handed to the core with a
device as `RoutedTo` says, and without slashes in sources with none but its own. -/
theorem dispatch_routedTo {h : Hub} {history : List Snapshot.Request}
    (hs : h.snapshot = afterAll history) :
    (∀ e : KeyEvent, ∃ device, (h.dispatchKey e).1.core = h.core.record (.key device e) ∧
      (h.dispatchKey e).2 = h.core.takesKey device ∧ RoutedTo history e.deviceId device) ∧
    (∀ e : MotionEvent, ∃ device, (h.dispatchMotion e).1.core = h.core.record (.motion device e) ∧
      (h.dispatchMotion e).2 = h.core.takesMotion device e ∧ RoutedTo history e.deviceId device) ∧
    ((∀ r ∈ history, r.Plain) → ∀ id, ¬ Shadowed (entries history) id) := by
  have hroute (id : Int32) : RoutedTo history id (h.snapshot.getById? id) := by
    rw [hs]
    exact routedTo_getById? history id
  exact ⟨fun e => ⟨_, rfl, rfl, hroute e.deviceId⟩, fun e => ⟨_, rfl, rfl, hroute e.deviceId⟩,
    not_shadowed⟩

/-- A device that moves. -/
def ball : Descriptor := (Descriptor.bare 1 "hid/0" "ball").withCapabilities .motion

/-- A device whose qualifier reads like that of the ball. -/
def tablet : Descriptor := .bare 2 "hid" "0/ball"

/-- A hub over both, with the tablet attached after a first rescan. -/
def alike : Hub :=
  ((((create .standard ⟨false, [], false, false, []⟩).attach ball).refresh .caller).1.attach
    tablet).refresh .caller |>.1

/-- The ball moves. -/
def rolling : MotionEvent := ⟨1, .mouse, [⟨0, .one⟩], .epoch⟩

theorem dispatch_routedTo_alike :
    alike.snapshot = afterAll [.rebuild [ball], .rebuild [ball, tablet]] ∧
    ∃ device, (alike.dispatchMotion rolling).1.core = alike.core.record (.motion device rolling) ∧
      (alike.dispatchMotion rolling).2 = alike.core.takesMotion device rolling ∧
      RoutedTo [.rebuild [ball], .rebuild [ball, tablet]] 1 device := by
  have hs : alike.snapshot = afterAll [.rebuild [ball], .rebuild [ball, tablet]] := rfl
  exact ⟨hs, (dispatch_routedTo hs).2.1 rolling⟩

/-- The ball is attached and was reported, but its motion is handed over as that of the tablet,
which does not move. -/
theorem rolling_misrouted : alike.platform.devices[(1 : Int32)]? = some ball ∧
    ∃ device, (alike.dispatchMotion rolling).1.core.calls =
        alike.core.calls ++ [.motion (some device) rolling] ∧
      device.platformId = 2 ∧ rolling.deviceId = 1 ∧ (alike.dispatchMotion rolling).2 = false := by
  have hget : alike.snapshot.getById? 1 = some (.ofDescriptor tablet ⟨"hid", 0, "0/ball"⟩) := by
    decide +kernel
  refine ⟨by decide +kernel, .ofDescriptor tablet ⟨"hid", 0, "0/ball"⟩, ?_, rfl, rfl,
    by decide +kernel⟩
  rw [← hget]
  rfl

end Hub

/-! ## Sessions -/

namespace Session

variable {allowed : Descriptor → Prop}

theorem Step.snapshot_eq {σ τ : Session} (hstep : Step allowed σ τ) :
    τ.hub.snapshot = σ.hub.snapshot ∨
      ∃ found, τ.hub.snapshot = σ.hub.snapshot.rebuild found := by
  have hprogress {h : Hub} {stage : Stage} {party : Party} {v : Option Verdict}
      (ha : Hub.Progress σ.hub party stage h v) :
      h.snapshot = σ.hub.snapshot ∨ ∃ found, h.snapshot = σ.hub.snapshot.rebuild found := by
    cases ha with
    | installed found => exact .inr ⟨found, rfl⟩
    | listed | refused | brokenOff | heldUp | announced | stays | published => exact .inl rfl
  have hmailed {h : Hub} {id : Nat} {m : Message} (hm : Hub.Mailed σ.hub id m h) :
      h.snapshot = σ.hub.snapshot := by
    obtain ⟨_, _, rfl⟩ := hm.rest
    rfl
  cases hstep with
  | tell _ =>
    rename_i l _ _
    cases l with
    | worker id => exact .inl (hmailed (Hub.mailed_post ..))
    | outsider => exact .inl rfl
  | begin _ hb =>
    obtain ⟨-, rfl⟩ := Hub.begin?_eq_some hb
    exact .inl rfl
  | advance _ hr ha => exact hprogress (Hub.advance_cases hr ha)
  | finish _ hr ha => exact hprogress (Hub.advance_cases hr ha)
  | stop _ => exact .inl (hmailed (Hub.mailed_askToQuit ..))
  | work hw =>
    obtain ⟨w, -, hmove⟩ := Hub.workerStep?_cases hw
    generalize σ.hub.workerVerdict? _ = v at hmove
    cases hmove with
    | onQueue | begins => exact .inl rfl
    | advances _ hr ha => exact hprogress (Hub.advance_cases hr ha)
    | ends _ _ hr ha _ =>
      have hends := hprogress (Hub.advance_cases hr ha)
      exact hends
  | release =>
    refine .inl ?_
    dsimp only
    unfold Hub.letGo
    split <;> rfl
  | attach | change | detach | setAvailable | lookUp | told | refresh | register | poison | listen
  | activate | unregister | unlisten | join | aside => exact .inl rfl

/-- Whatever happens in a session, its registry has lived through some requests. -/
theorem Steps.exists_history {config : Config} {core : Core} {σ : Session}
    (hrun : Steps allowed (start config core) σ) :
    ∃ history, σ.hub.snapshot = Snapshot.afterAll history := by
  induction hrun with
  | refl => exact ⟨[], rfl⟩
  | tail _ hstep ih =>
    obtain ⟨history, hs⟩ := ih
    rcases hstep.snapshot_eq with hsame | ⟨found, hnext⟩
    · exact ⟨history, hsame.trans hs⟩
    · refine ⟨history ++ [.rebuild found], ?_⟩
      rw [hnext, hs, Snapshot.afterAll_concat]
      rfl

end Session

end InputHub
