import Mathlib.Data.List.Perm.Subperm
import InputHub.Proofs.History
import InputHub.Proofs.Interleaving

/-!
# What holds in every session

Three invariants of `Session.Step`, and what no step changes:

* `Hub.Plain`: the device table has every device under its own platform id, and where no attached
  device has a slash in its source, no list that is about to be installed has one and the snapshot
  is faithful;
* `Hub.Manned`: workers have numbers that were given out, and the one that runs the rescan under way
  stands at its rescan;
* `Session.Wired`: every worker that is registered, about to be registered or about to stop
  listening has a listener number of its own, under which it listens;
* `Session.Steps.settings`: the settings of a hub stay.
-/

namespace InputHub

/-! ## Devices without slashes -/

/-- No device that a hub knows of has a slash in its source. -/
structure Hub.Plain (h : Hub) : Prop where
  keyed {id : Int32} {d : Descriptor} : h.platform.devices[id]? = some d → d.platformId = id
  attached {id : Int32} {d : Descriptor} :
    h.platform.devices[id]? = some d → PlainSource d.source
  listed {party : Party} {found : List Descriptor} :
    h.rescan = some ⟨party, .install found⟩ → ∀ d ∈ found, PlainSource d.source
  faithful : h.snapshot.Faithful

namespace Hub.Plain

variable {h h' : Hub}

theorem congr (hp : h.Plain) (hd : h'.platform.devices = h.platform.devices)
    (hr : h'.rescan = h.rescan) (hs : h'.snapshot = h.snapshot) : h'.Plain where
  keyed := hd ▸ hp.keyed
  attached := hd ▸ hp.attached
  listed := hr ▸ hp.listed
  faithful := hs ▸ hp.faithful

theorem mem_values (hp : h.Plain) {d : Descriptor} (hd : d ∈ h.platform.devices.values) :
    PlainSource d.source := by
  obtain ⟨id, hid⟩ := mem_values_iff.1 hd
  exact hp.attached hid

/-- The list of the devices has every device under its platform id. -/
theorem firstWith?_values (hp : h.Plain) {id : Int32} {d : Descriptor}
    (hd : h.platform.devices[id]? = some d) :
    Snapshot.firstWith? h.platform.devices.values id = some d := by
  obtain ⟨e, he⟩ := Snapshot.exists_firstWith? (mem_values_iff.2 ⟨id, hd⟩)
  rw [hp.keyed hd] at he
  obtain ⟨i, hi⟩ := mem_values_iff.1 (List.mem_of_find?_eq_some he)
  have hid : i = id := by rw [← hp.keyed hi, Snapshot.firstWith?_platformId he]
  rw [hid, hd, Option.some.injEq] at hi
  rw [he, hi]

theorem put (hp : h.Plain) {d : Descriptor} (hd : PlainSource d.source) :
    { h with platform := h.platform.put d }.Plain where
  keyed {id e} he := by
    simp only [MemoryPlatform.put, Std.TreeMap.getElem?_insert] at he
    split at he
    · rename_i hid
      rw [← Option.some.inj he]
      exact Std.LawfulEqCmp.eq_of_compare hid
    · exact hp.keyed he
  attached {id e} he := by
    simp only [MemoryPlatform.put, Std.TreeMap.getElem?_insert] at he
    split at he
    · rw [← Option.some.inj he]
      exact hd
    · exact hp.attached he
  listed := hp.listed
  faithful := hp.faithful

theorem remove (hp : h.Plain) (device : Int32) :
    { h with platform := h.platform.remove device }.Plain where
  keyed {id d} hd := by
    simp only [MemoryPlatform.remove, Std.TreeMap.getElem?_erase] at hd
    split at hd
    · cases hd
    · exact hp.keyed hd
  attached {id d} hd := by
    simp only [MemoryPlatform.remove, Std.TreeMap.getElem?_erase] at hd
    split at hd
    · cases hd
    · exact hp.attached hd
  listed := hp.listed
  faithful := hp.faithful

/-- A hub whose rescan is not about to install anything. -/
theorem of_rescan (hp : h.Plain) (hd : h'.platform.devices = h.platform.devices)
    (hs : h'.snapshot = h.snapshot)
    (hr : ∀ party found, h'.rescan ≠ some ⟨party, .install found⟩) : h'.Plain where
  keyed := hd ▸ hp.keyed
  attached := hd ▸ hp.attached
  listed he := absurd he (hr _ _)
  faithful := hs ▸ hp.faithful

theorem progress (hp : h.Plain) {party : Party} {stage : Stage} {v : Option Verdict}
    (hr : h.rescan = some ⟨party, stage⟩) (ha : Hub.Progress h party stage h' v) : h'.Plain := by
  cases ha with
  | listed =>
    refine ⟨hp.keyed, hp.attached, fun {_ found} he => ?_, hp.faithful⟩
    simp only [Option.some.injEq, Rescan.mk.injEq, Stage.install.injEq] at he
    obtain ⟨-, rfl⟩ := he
    exact fun d hd => hp.mem_values hd
  | installed found =>
    refine ⟨hp.keyed, hp.attached, fun he => by simp [Hub.note] at he, ?_⟩
    exact hp.faithful.rebuild (hp.listed hr)
  | stays => exact hp
  | refused | brokenOff | heldUp | announced | published =>
    exact hp.of_rescan rfl rfl (by simp)

theorem mailed (hp : h.Plain) {id : Nat} {m : Message} (hm : Hub.Mailed h id m h') : h'.Plain := by
  obtain ⟨workers, journal, rfl⟩ := hm.rest
  exact hp.congr rfl rfl rfl

theorem workerStep? (hp : h.Plain) {id : Nat} (hw : h.workerStep? id = some h') : h'.Plain := by
  obtain ⟨w, -, hmove⟩ := Hub.workerStep?_cases hw
  generalize h.workerVerdict? id = v at hmove
  cases hmove with
  | onQueue => exact hp.congr rfl rfl rfl
  | begins => exact hp.of_rescan rfl rfl (by simp)
  | advances _ hr ha => exact hp.progress hr (Hub.advance_cases hr ha)
  | ends journal _ hr ha => exact (hp.progress hr (Hub.advance_cases hr ha)).congr rfl rfl rfl

theorem letGo (hp : h.Plain) : h.letGo.Plain := by
  unfold Hub.letGo
  split
  · exact hp.of_rescan rfl rfl (by simp)
  · exact hp

end Hub.Plain

namespace Session

theorem plain_start (config : Config) (core : Core) : (start config core).hub.Plain where
  keyed h := by simp [start, Hub.create, MemoryPlatform.empty] at h
  attached h := by simp [start, Hub.create, MemoryPlatform.empty] at h
  listed h := by simp [start, Hub.create] at h
  faithful := Snapshot.faithful_initial

/-- Where only sources without a slash are attached, a hub never knows of another. -/
theorem Step.plain {σ τ : Session} (hstep : Step (fun d => PlainSource d.source) σ τ)
    (hp : σ.hub.Plain) : τ.hub.Plain := by
  cases hstep with
  | attach d hd => exact hp.put hd
  | change d hd => exact hp.put hd
  | detach device => exact hp.remove device
  | tell _ =>
    rename_i l _ _
    cases l with
    | worker id => exact hp.mailed (Hub.mailed_post ..)
    | outsider => exact hp
  | begin _ hb =>
    obtain ⟨-, rfl⟩ := Hub.begin?_eq_some hb
    exact hp.of_rescan rfl rfl (by simp)
  | advance _ hr ha => exact hp.progress hr (Hub.advance_cases hr ha)
  | finish _ hr ha => exact hp.progress hr (Hub.advance_cases hr ha)
  | stop _ => exact hp.mailed (Hub.mailed_askToQuit ..)
  | work hw => exact hp.workerStep? hw
  | release => exact hp.letGo
  | setAvailable | lookUp | told | refresh | register | poison | listen | activate | unregister
  | unlisten | join | aside => exact hp.congr rfl rfl rfl

end Session

/-! ## Workers -/

/-- The workers of a hub have numbers that were given out, and the one that runs the rescan under
way stands at its rescan. -/
structure Hub.Manned (h : Hub) : Prop where
  numbered {id : Nat} {w : Worker} : h.workers[id]? = some w → id < h.nextWorker
  rescanning {id : Nat} {stage : Stage} : h.rescan = some ⟨.worker id, stage⟩ →
    ∃ w, h.workers[id]? = some w ∧ w.position = .rescanning

namespace Hub.Manned

variable {h h' : Hub}

theorem congr (hm : h.Manned) (hw : h'.workers = h.workers) (hn : h'.nextWorker = h.nextWorker)
    (hr : h'.rescan = h.rescan) : h'.Manned where
  numbered := hw ▸ hn ▸ hm.numbered
  rescanning := hw ▸ hr ▸ hm.rescanning

/-- A hub whose rescan, if any, is run by the same party. -/
theorem of_party (hm : h.Manned) (hw : h'.workers = h.workers) (hn : h'.nextWorker = h.nextWorker)
    (hr : ∀ {id stage}, h'.rescan = some ⟨.worker id, stage⟩ →
      ∃ stage', h.rescan = some ⟨.worker id, stage'⟩) : h'.Manned where
  numbered := hw ▸ hn ▸ hm.numbered
  rescanning he := by
    obtain ⟨stage', he'⟩ := hr he
    rw [hw]
    exact hm.rescanning he'

theorem mailed (hm : h.Manned) {id : Nat} {m : Message} (hmail : Hub.Mailed h id m h') :
    h'.Manned := by
  have hback {i : Nat} {w' : Worker} (hw' : h'.workers[i]? = some w') := hmail.position hw'
  have hforth {i : Nat} {w : Worker} (hw : h.workers[i]? = some w) :
      ∃ w', h'.workers[i]? = some w' := by
    by_cases hi : i = id
    · subst hi
      exact ⟨_, by rw [hmail.worker, hw]; rfl⟩
    · exact ⟨w, by rw [hmail.others hi, hw]⟩
  obtain ⟨workers, journal, rfl⟩ := hmail.rest
  refine ⟨fun hw' => ?_, fun he => ?_⟩
  · obtain ⟨w, hw, -⟩ := hback hw'
    exact hm.numbered hw
  · obtain ⟨w, hw, hpos⟩ := hm.rescanning he
    obtain ⟨w', hw'⟩ := hforth hw
    obtain ⟨w₁, hw₁, hpos₁⟩ := hback hw'
    rw [hw, Option.some.injEq] at hw₁
    exact ⟨w', hw', by rw [← hpos₁, ← hw₁, hpos]⟩

/-- A worker that runs no rescan may go anywhere. -/
theorem setWorker (hm : h.Manned) {id : Nat} {w : Worker} (hw : h.workers[id]? = some w)
    (hfree : ∀ stage, h.rescan ≠ some ⟨.worker id, stage⟩) (w' : Worker) :
    (h.setWorker id w').Manned where
  numbered {i _} hi := by
    rw [Hub.workers_setWorker] at hi
    split at hi
    · rename_i he
      exact he ▸ hm.numbered hw
    · exact hm.numbered hi
  rescanning {i stage} he := by
    have hne : id ≠ i := fun heq => hfree stage (heq ▸ he)
    rw [Hub.workers_setWorker, if_neg hne]
    exact hm.rescanning he

theorem startWorker (hm : h.Manned) : h.startWorker.2.Manned where
  numbered {i _} hi := by
    simp only [Hub.startWorker] at hi ⊢
    rw [Hub.workers_setWorker] at hi
    split at hi
    · omega
    · exact Nat.lt_succ_of_lt (hm.numbered hi)
  rescanning {i stage} he := by
    obtain ⟨w, hw, hpos⟩ := hm.rescanning he
    have hne : h.nextWorker ≠ i := (hm.numbered hw).ne'
    refine ⟨w, ?_, hpos⟩
    simp only [Hub.startWorker]
    rw [Hub.workers_setWorker, if_neg hne, hw]

theorem progress (hm : h.Manned) {party : Party} {stage : Stage} {v : Option Verdict}
    (hr : h.rescan = some ⟨party, stage⟩) (ha : Hub.Progress h party stage h' v) : h'.Manned := by
  obtain ⟨hw, hn⟩ := ha.workers_eq
  refine hm.of_party hw hn fun he => ⟨stage, ?_⟩
  rw [hr, ha.party_eq hr he]

theorem workerStep? (hm : h.Manned) {id : Nat} (hstep : h.workerStep? id = some h') :
    h'.Manned := by
  obtain ⟨w, hw, hmove⟩ := Hub.workerStep?_cases hstep
  generalize h.workerVerdict? id = v at hmove
  cases hmove with
  | onQueue hpos _ =>
    have hnote (ns : List Notice) : (h.note ns).Manned := hm.congr rfl rfl rfl
    refine (hnote _).setWorker hw (fun stage he => ?_) _
    obtain ⟨w₁, hw₁, hpos₁⟩ := hm.rescanning he
    rw [hw, Option.some.injEq] at hw₁
    exact hpos (hw₁ ▸ hpos₁)
  | begins hpos _ =>
    refine ⟨hm.numbered, fun he => ?_⟩
    simp only [Option.some.injEq, Rescan.mk.injEq, Party.worker.injEq] at he
    obtain ⟨rfl, -⟩ := he
    exact ⟨w, hw, hpos⟩
  | advances _ hr ha => exact hm.progress hr (Hub.advance_cases hr ha)
  | ends journal _ hr ha _ =>
    have hp := Hub.advance_cases hr ha
    have hset (w' : Worker) := (hm.progress hr hp).setWorker (hp.workers_eq.1 ▸ hw)
      (fun stage => by simp [hp.rescan_eq_none]) w'
    exact (hset _).congr rfl rfl rfl

theorem letGo (hm : h.Manned) : h.letGo.Manned := by
  unfold Hub.letGo
  split
  · rename_i party hr
    refine hm.of_party rfl rfl fun he => ?_
    simp only [Option.some.injEq, Rescan.mk.injEq] at he
    exact ⟨.held, he.1 ▸ hr⟩
  · exact hm

end Hub.Manned

namespace Session

theorem manned_start (config : Config) (core : Core) : (start config core).hub.Manned where
  numbered h := by simp [start, Hub.create] at h
  rescanning h := by simp [start, Hub.create] at h

theorem Step.manned {allowed : Descriptor → Prop} {σ τ : Session} (hstep : Step allowed σ τ)
    (hm : σ.hub.Manned) : τ.hub.Manned := by
  cases hstep with
  | tell _ =>
    rename_i l _ _
    cases l with
    | worker id => exact hm.mailed (Hub.mailed_post ..)
    | outsider => exact hm
  | begin _ hb =>
    obtain ⟨-, rfl⟩ := Hub.begin?_eq_some hb
    exact hm.of_party rfl rfl (by simp)
  | advance _ hr ha => exact hm.progress hr (Hub.advance_cases hr ha)
  | finish _ hr ha => exact hm.progress hr (Hub.advance_cases hr ha)
  | register => exact hm.startWorker
  | stop _ => exact hm.mailed (Hub.mailed_askToQuit ..)
  | work hw => exact hm.workerStep? hw
  | release => exact hm.letGo
  | attach | change | detach | setAvailable | lookUp | told | refresh | poison | listen | activate
  | unregister | unlisten | join | aside => exact hm.congr rfl rfl rfl

end Session

/-! ## Listeners -/

/-- The listener and the worker that a registration speaks of. -/
def Registration.owned? : Registration → Option (Nat × Nat)
  | active listener worker => some (listener, worker)
  | _ => none

/-- The listener and the worker that a call will register, or stop listening. -/
def Call.owned? : Call → Option (Nat × Nat)
  | activate listener worker | unlisten listener worker => some (listener, worker)
  | _ => none

/-- The listeners that a registration and some calls speak of, with their workers. -/
def ownedBy (r : Registration) (calls : List Call) : List (Nat × Nat) :=
  r.owned?.toList ++ calls.filterMap Call.owned?

theorem mem_ownedBy {r : Registration} {l w : Nat} (hr : r = .active l w) (calls : List Call) :
    (l, w) ∈ ownedBy r calls := by
  simp [ownedBy, hr, Registration.owned?]

theorem ownedBy_erase (r : Registration) (calls : List Call) (c : Call) :
    (ownedBy r (calls.erase c)).Sublist (ownedBy r calls) :=
  (List.erase_sublist.filterMap _).append_left _

theorem ownedBy_cons {c : Call} (hc : c.owned? = none) (r : Registration) (calls : List Call) :
    ownedBy r (c :: calls) = ownedBy r calls := by
  simp [ownedBy, hc]

theorem ownedBy_perm {r : Registration} {calls : List Call} {c : Call} {p : Nat × Nat}
    (hc : c ∈ calls) (hp : c.owned? = some p) :
    (ownedBy r calls).Perm (p :: ownedBy r (calls.erase c)) := by
  have h := ((List.perm_cons_erase hc).filterMap Call.owned?).append_left r.owned?.toList
  rw [List.filterMap_cons_some hp] at h
  exact h.trans List.perm_middle

/-- Two hubs with the same settings, and with platforms that refuse the same. -/
structure Hub.SameSettings (h h' : Hub) : Prop where
  config : h'.config = h.config
  listenFault : h'.listenFault = h.listenFault
  unlistenFault : h'.unlistenFault = h.unlistenFault

/-- Two hubs that also have the same registration, listeners and count of workers. -/
structure Hub.SameWiring (h h' : Hub) : Prop extends Hub.SameSettings h h' where
  registration : h'.registration = h.registration
  listeners : h'.platform.listeners = h.platform.listeners
  nextListener : h'.platform.nextListener = h.platform.nextListener
  nextWorker : h'.nextWorker = h.nextWorker

namespace Hub.SameWiring

variable {h h' : Hub}

theorem refl (h : Hub) : SameWiring h h := ⟨⟨rfl, rfl, rfl⟩, rfl, rfl, rfl, rfl⟩

theorem trans {h'' : Hub} (hfirst : SameWiring h h') (hthen : SameWiring h' h'') :
    SameWiring h h'' where
  config := hthen.config.trans hfirst.config
  listenFault := hthen.listenFault.trans hfirst.listenFault
  unlistenFault := hthen.unlistenFault.trans hfirst.unlistenFault
  registration := hthen.registration.trans hfirst.registration
  listeners := hthen.listeners.trans hfirst.listeners
  nextListener := hthen.nextListener.trans hfirst.nextListener
  nextWorker := hthen.nextWorker.trans hfirst.nextWorker

theorem progress {party : Party} {stage : Stage} {v : Option Verdict}
    (ha : Hub.Progress h party stage h' v) : SameWiring h h' := by
  cases ha <;> exact ⟨⟨rfl, rfl, rfl⟩, rfl, rfl, rfl, rfl⟩

theorem mailed {id : Nat} {m : Message} (hm : Hub.Mailed h id m h') : SameWiring h h' := by
  obtain ⟨workers, journal, rfl⟩ := hm.rest
  exact ⟨⟨rfl, rfl, rfl⟩, rfl, rfl, rfl, rfl⟩

theorem tell (h : Hub) (change : Change) (device : Int32) (l : Subscriber) :
    SameWiring h (h.tell change device l) := by
  cases l with
  | worker id => exact mailed (Hub.mailed_post ..)
  | outsider => exact refl h

theorem workerStep? {id : Nat} (hstep : h.workerStep? id = some h') : SameWiring h h' := by
  obtain ⟨w, -, hmove⟩ := Hub.workerStep?_cases hstep
  generalize h.workerVerdict? id = v at hmove
  cases hmove with
  | onQueue | begins => exact ⟨⟨rfl, rfl, rfl⟩, rfl, rfl, rfl, rfl⟩
  | advances _ hr ha => exact progress (Hub.advance_cases hr ha)
  | ends journal _ hr ha _ =>
    obtain ⟨⟨h₁, h₂, h₃⟩, h₄, h₅, h₆, h₇⟩ := progress (Hub.advance_cases hr ha)
    exact ⟨⟨h₁, h₂, h₃⟩, h₄, h₅, h₆, h₇⟩

theorem begin? {party : Party} (hb : h.begin? party = some h') : SameWiring h h' := by
  obtain ⟨-, rfl⟩ := Hub.begin?_eq_some hb
  exact ⟨⟨rfl, rfl, rfl⟩, rfl, rfl, rfl, rfl⟩

theorem letGo (h : Hub) : SameWiring h h.letGo := by
  unfold Hub.letGo
  split <;> exact ⟨⟨rfl, rfl, rfl⟩, rfl, rfl, rfl, rfl⟩

end Hub.SameWiring

namespace Session

/-- Every listener that the hub or a call speaks of is a number of its own, under which its worker
listens. -/
structure Wired (σ : Session) : Prop where
  distinct : ((ownedBy σ.hub.registration σ.calls).map Prod.fst).Nodup
  listening : ∀ p ∈ ownedBy σ.hub.registration σ.calls,
    σ.hub.platform.listeners[p.1]? = some (.worker p.2)
  numbered : ∀ p ∈ ownedBy σ.hub.registration σ.calls,
    p.1 < σ.hub.platform.nextListener ∧ p.2 < σ.hub.nextWorker
  started {w : Nat} : .listen w ∈ σ.calls → w < σ.hub.nextWorker

theorem wired_start (config : Config) (core : Core) : (start config core).Wired where
  distinct := by simp [start, Hub.create, ownedBy, Registration.owned?]
  listening := by simp [start, Hub.create, ownedBy, Registration.owned?]
  numbered := by simp [start, Hub.create, ownedBy, Registration.owned?]
  started h := by simp [start] at h

namespace Wired

variable {σ τ : Session} (hw : σ.Wired)
include hw

/-- Calls come and go that speak of no new listener, and the table of listeners stays. -/
theorem of_subperm
    (hown : (ownedBy τ.hub.registration τ.calls).Subperm (ownedBy σ.hub.registration σ.calls))
    (hl : τ.hub.platform.listeners = σ.hub.platform.listeners)
    (hnl : τ.hub.platform.nextListener = σ.hub.platform.nextListener)
    (hnw : σ.hub.nextWorker ≤ τ.hub.nextWorker)
    (hs : ∀ {w}, .listen w ∈ τ.calls → w < τ.hub.nextWorker) : τ.Wired where
  distinct := by
    obtain ⟨ps, hperm, hsub⟩ := hown
    exact (hperm.map Prod.fst).nodup_iff.1 ((hsub.map Prod.fst).nodup hw.distinct)
  listening p hp := hl ▸ hw.listening p (hown.subset hp)
  numbered p hp := by
    obtain ⟨h₁, h₂⟩ := hw.numbered p (hown.subset hp)
    exact ⟨hnl ▸ h₁, h₂.trans_le hnw⟩
  started := hs

/-- The hub changes, but not in its listeners. -/
theorem keep {h : Hub} {last : Option Verdict} (hsame : Hub.SameWiring σ.hub h) :
    (Session.mk h σ.calls last).Wired :=
  hw.of_subperm (by rw [hsame.registration]) hsame.listeners hsame.nextListener hsame.nextWorker.ge
    fun hl => hsame.nextWorker ▸ hw.started hl

/-- A call ends. -/
theorem erase (c : Call) : (Session.mk σ.hub (σ.calls.erase c) σ.last).Wired :=
  hw.of_subperm (ownedBy_erase ..).subperm rfl rfl le_rfl
    fun hl => hw.started (List.mem_of_mem_erase hl)

/-- A call begins that speaks of no listener. -/
theorem enter {c : Call} (hown : c.owned? = none) (hlisten : ∀ w, c ≠ .listen w) :
    (Session.mk σ.hub (c :: σ.calls) σ.last).Wired := by
  refine hw.of_subperm ?_ rfl rfl le_rfl fun {w} hl => ?_
  · simp only [ownedBy_cons hown]
    exact .refl _
  · rcases List.mem_cons.1 hl with hl | hl
    · exact absurd hl.symm (hlisten w)
    · exact hw.started hl

/-- A new listener gets a number that none has. -/
theorem listen {w : Nat} (hc : .listen w ∈ σ.calls) :
    (Session.mk { σ.hub with platform := (σ.hub.platform.listen (.worker w)).2 }
      (.activate (σ.hub.platform.listen (.worker w)).1 w :: σ.calls.erase (.listen w))
      σ.last).Wired := by
  have hsub := (ownedBy_erase σ.hub.registration σ.calls (.listen w)).subset
  have hperm : (ownedBy σ.hub.registration
      (.activate σ.hub.platform.nextListener w :: σ.calls.erase (.listen w))).Perm
      ((σ.hub.platform.nextListener, w) ::
        ownedBy σ.hub.registration (σ.calls.erase (.listen w))) := List.perm_middle
  have hmem {p : Nat × Nat} : p ∈ ownedBy σ.hub.registration
      (.activate σ.hub.platform.nextListener w :: σ.calls.erase (.listen w)) →
      p = (σ.hub.platform.nextListener, w) ∨ p ∈ ownedBy σ.hub.registration σ.calls :=
    fun hp => (List.mem_cons.1 (hperm.mem_iff.1 hp)).imp_right fun h => hsub h
  refine ⟨?_, fun p hp => ?_, fun p hp => ?_, fun {w'} hl => ?_⟩
  · refine (hperm.map Prod.fst).nodup_iff.2 (List.nodup_cons.2 ⟨fun hin => ?_, ?_⟩)
    · obtain ⟨p, hp, he⟩ := List.mem_map.1 hin
      exact absurd (hw.numbered p (hsub hp)).1 (he ▸ Nat.lt_irrefl _)
    · exact ((ownedBy_erase ..).map Prod.fst).nodup hw.distinct
  · rcases hmem hp with rfl | hp
    · simp [MemoryPlatform.listen]
    · have hlt := (hw.numbered p hp).1
      simp only [MemoryPlatform.listen, Std.TreeMap.getElem?_insert]
      rw [if_neg (by simpa using hlt.ne'), hw.listening p hp]
  · rcases hmem hp with rfl | hp
    · exact ⟨Nat.lt_succ_self _, hw.started hc⟩
    · exact ⟨Nat.lt_succ_of_lt (hw.numbered p hp).1, (hw.numbered p hp).2⟩
  · rcases List.mem_cons.1 hl with hl | hl
    · cases hl
    · exact hw.started (List.mem_of_mem_erase hl)

/-- The listener of a call becomes that of the hub. -/
theorem activate {l w : Nat} (hc : .activate l w ∈ σ.calls) :
    (Session.mk { σ.hub with registration := .active l w } (σ.calls.erase (.activate l w))
      σ.last).Wired := by
  refine hw.of_subperm ?_ rfl rfl le_rfl fun hl => hw.started (List.mem_of_mem_erase hl)
  refine List.Subperm.trans ?_ (ownedBy_perm (r := σ.hub.registration) hc rfl).symm.subperm
  exact ((List.sublist_append_right ..).cons_cons _).subperm

/-- The listener of the hub becomes that of a call. -/
theorem unregister {l w : Nat} (hact : σ.hub.registration = .active l w) :
    (Session.mk { σ.hub with registration := .absent } (.unlisten l w :: σ.calls)
      σ.last).Wired := by
  refine hw.of_subperm ?_ rfl rfl le_rfl fun {w} hl => ?_
  · simp only [ownedBy, hact]
    exact .refl _
  · rcases List.mem_cons.1 hl with hl | hl
    · cases hl
    · exact hw.started hl

/-- No other listener is lost when one stops listening. -/
theorem unlisten {l w : Nat} (hc : .unlisten l w ∈ σ.calls) :
    (Session.mk { σ.hub with platform := σ.hub.platform.unlisten l }
      (σ.calls.erase (.unlisten l w)) σ.last).Wired := by
  have he := hw.erase (.unlisten l w)
  refine ⟨he.distinct, fun p hp => ?_, he.numbered, he.started⟩
  have hnodup := ((ownedBy_perm (r := σ.hub.registration) hc rfl).map Prod.fst).nodup_iff.1
    hw.distinct
  have hne : p.1 ≠ l := fun heq => (List.nodup_cons.1 hnodup).1 (List.mem_map.2 ⟨p, hp, heq⟩)
  simp only [MemoryPlatform.unlisten, Std.TreeMap.getElem?_erase]
  rw [if_neg (by simpa using hne.symm)]
  exact he.listening p hp

end Wired

/-- The settings of a hub never change. -/
theorem Step.settings {allowed : Descriptor → Prop} {σ τ : Session} (hstep : Step allowed σ τ) :
    Hub.SameSettings σ.hub τ.hub := by
  cases hstep with
  | tell _ => exact (Hub.SameWiring.tell ..).toSameSettings
  | begin _ hb => exact (Hub.SameWiring.begin? hb).toSameSettings
  | advance _ hr ha => exact (Hub.SameWiring.progress (Hub.advance_cases hr ha)).toSameSettings
  | finish _ hr ha => exact (Hub.SameWiring.progress (Hub.advance_cases hr ha)).toSameSettings
  | stop _ => exact (Hub.SameWiring.mailed (Hub.mailed_askToQuit ..)).toSameSettings
  | work hw => exact (Hub.SameWiring.workerStep? hw).toSameSettings
  | release => exact (Hub.SameWiring.letGo _).toSameSettings
  | attach | change | detach | setAvailable | lookUp | told | refresh | register | poison | listen
  | activate | unregister | unlisten | join | aside => exact ⟨rfl, rfl, rfl⟩

theorem Steps.settings {allowed : Descriptor → Prop} {σ τ : Session} (hrun : Steps allowed σ τ) :
    Hub.SameSettings σ.hub τ.hub := by
  induction hrun with
  | refl => exact ⟨rfl, rfl, rfl⟩
  | tail _ hstep ih =>
    have hnext := hstep.settings
    exact ⟨hnext.config.trans ih.config, hnext.listenFault.trans ih.listenFault,
      hnext.unlistenFault.trans ih.unlistenFault⟩

theorem Step.wired {allowed : Descriptor → Prop} {σ τ : Session} (hstep : Step allowed σ τ)
    (hw : σ.Wired) : τ.Wired := by
  cases hstep with
  | attach | change | detach =>
    exact (hw.enter (c := .notify _ _) rfl (by simp)).keep ⟨⟨rfl, rfl, rfl⟩, rfl, rfl, rfl, rfl⟩
  | setAvailable | aside => exact hw.keep ⟨⟨rfl, rfl, rfl⟩, rfl, rfl, rfl, rfl⟩
  | lookUp _ => exact (hw.erase _).enter rfl (by simp)
  | tell _ => exact ((hw.erase _).enter (c := .tell _ _ _) rfl (by simp)).keep (.tell ..)
  | told _ => exact hw.erase _
  | refresh => exact hw.enter rfl (by simp)
  | begin _ hb => exact ((hw.erase _).enter (c := .rescan _) rfl (by simp)).keep (.begin? hb)
  | advance _ hr ha => exact hw.keep (.progress (Hub.advance_cases hr ha))
  | finish _ hr ha => exact (hw.erase _).keep (.progress (Hub.advance_cases hr ha))
  | register =>
    refine hw.of_subperm (.refl _) rfl rfl (Nat.le_succ _) fun {w} hl => ?_
    rcases List.mem_cons.1 hl with hl | hl
    · obtain rfl := Call.listen.inj hl
      exact Nat.lt_succ_self _
    · exact Nat.lt_succ_of_lt (hw.started hl)
  | poison habs _ _ =>
    refine hw.of_subperm ?_ rfl rfl le_rfl hw.started
    simp only [ownedBy, habs]
    exact .refl _
  | listen hc => exact hw.listen hc
  | activate hc =>
    have hact := hw.activate hc
    dsimp only
    split
    · exact (hact.enter (c := .refresh _) rfl (by simp)).keep ⟨⟨rfl, rfl, rfl⟩, rfl, rfl, rfl, rfl⟩
    · exact hact.keep ⟨⟨rfl, rfl, rfl⟩, rfl, rfl, rfl, rfl⟩
  | unregister hact _ => exact hw.unregister hact
  | unlisten hc => exact (hw.unlisten hc).enter rfl (by simp)
  | stop _ =>
    exact ((hw.erase _).enter (c := .join _) rfl (by simp)).keep (.mailed (Hub.mailed_askToQuit ..))
  | join _ _ => exact hw.erase _
  | work hstep => exact hw.keep (.workerStep? hstep)
  | release => exact hw.keep (.letGo _)

end Session

end InputHub
