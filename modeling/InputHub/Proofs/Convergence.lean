import InputHub.Proofs.Schedules

/-!
# The registry catches up with the platform

A change of the platform's devices reaches the registry by a long way: the listeners are looked up
and told, a worker takes the request, drops those that wait behind it, and rescans when no other
rescan is under way. Meanwhile devices change, other rescans run or fail, and the listener is
unregistered and registered again. No change is lost on that way:

* `Session.InStep` is the invariant. While a worker is registered, either something is under way
  that will still list the devices for it, or the devices have not changed since they were listed
  last;
* `Session.Step.inStep`: every step preserves it;
* `Session.agrees_when_idle`: so when nothing is under way for the registered worker and the last
  rescan succeeded, the registry shows exactly the devices that are attached.
-/

namespace InputHub

namespace Hub

/-- The registry is an image of the platform's devices. -/
def Agrees (h : Hub) : Prop := h.snapshot.ImageOf h.platform.devices.values

/-- A rescan is about to list the devices. -/
def IsListing (h : Hub) : Prop := ∃ party, h.rescan = some ⟨party, .enumerate⟩

/-- A worker has no message, and it waits for one or runs a rescan that has listed the devices. -/
structure Settled (h : Hub) (id : Nat) (w : Worker) : Prop where
  worker : h.workers[id]? = some w
  queue : w.queue = []
  position : w.position = .waiting ∨
    ∃ stage, stage ≠ .enumerate ∧ h.rescan = some ⟨.worker id, stage⟩

/-- The devices have not changed since they were listed last. If the list is not installed yet, the
rescan is one that is `awaited`, or the registry agrees with the devices already. If listing failed
nothing is known. -/
def Covered (h : Hub) (last : Option Verdict) (awaited : Prop) : Prop :=
  match h.rescan with
  | some ⟨_, .install found⟩ =>
    found = h.platform.devices.values ∧ (awaited ∨ (last = some .done → h.Agrees))
  | some ⟨_, .announce⟩ | some ⟨_, .held⟩ | some ⟨_, .publish⟩ => h.Agrees
  | some ⟨_, .enumerate⟩ | none => last = some .done → h.Agrees

namespace Covered

variable {h h' : Hub} {last : Option Verdict} {awaited awaited' : Prop}

theorem congr (hc : h.Covered last awaited) (hd : h'.platform.devices = h.platform.devices)
    (hr : h'.rescan = h.rescan) (hs : h'.snapshot = h.snapshot) (ho : awaited → awaited') :
    h'.Covered last awaited' := by
  have hagree : h'.Agrees = h.Agrees := by rw [Agrees, Agrees, hd, hs]
  unfold Covered at hc ⊢
  rw [hr, hagree, hd]
  split
  · rename_i hinstall
    rw [hinstall] at hc
    exact ⟨hc.1, hc.2.imp_left ho⟩
  all_goals
    rename_i hstage
    rw [hstage] at hc
    exact hc

/-- A stage of a rescan covers what was covered before. -/
theorem progress (hp : h.Plain) {party : Party} {stage : Stage} {v : Option Verdict}
    (hr : h.rescan = some ⟨party, stage⟩) (ha : Progress h party stage h' v)
    (hc : h.Covered last awaited) : h'.Covered (v.or last) awaited' := by
  rw [Covered, hr] at hc
  cases ha with
  | listed => exact ⟨rfl, .inr hc⟩
  | refused => exact fun h => nomatch h
  | installed found =>
    obtain ⟨rfl, -⟩ := hc
    exact hp.faithful.imageOf_rebuild (hp.listed hr)
  | brokenOff => exact fun h => nomatch h
  | heldUp => exact hc
  | announced => exact hc
  | stays => simpa only [Covered, hr] using hc
  | published => exact fun _ => hc

/-- Listing the devices covers all that came before. -/
theorem listing {party : Party} {v : Option Verdict} (ha : Progress h party .enumerate h' v)
    (ho : v = none → awaited) : h'.Covered (v.or last) awaited := by
  cases ha with
  | listed => exact ⟨rfl, .inl (ho rfl)⟩
  | refused => exact fun h => nomatch h

end Covered

namespace Settled

variable {h h' : Hub} {id : Nat} {w : Worker}

theorem isAlive (hm : h.Manned) (hs : h.Settled id w) : w.isAlive := by
  rcases hs.position with hpos | ⟨stage, -, hr⟩
  · simp [Worker.isAlive, hpos]
  · obtain ⟨w', hw', hpos⟩ := hm.rescanning hr
    rw [hs.worker, Option.some.injEq] at hw'
    simp [Worker.isAlive, hw', hpos]

/-- A message unsettles the worker that it is sent to, and no other. -/
theorem of_mailed (hm : h.Manned) {i : Nat} {m : Message} (hmail : Mailed h i m h')
    (hs : h'.Settled id w) : id ≠ i ∧ h.Settled id w := by
  have halive := hs.isAlive (hm.mailed hmail)
  have hworker := hmail.worker
  obtain ⟨workers, journal, rfl⟩ := hmail.rest
  have hne : id ≠ i := by
    rintro rfl
    rw [hs.worker] at hworker
    obtain ⟨w₀, -, rfl⟩ := Option.map_eq_some_iff.1 hworker.symm
    split at halive
    · rename_i hw₀
      simpa [hw₀, Worker.post] using hs.queue
    · rename_i hw₀
      exact hw₀ halive
  exact ⟨hne, (hmail.others hne).symm.trans hs.worker, hs.queue, hs.position⟩

/-- Only listing the devices settles a worker in a rescan. -/
theorem of_progress {party : Party} {stage : Stage} {v : Option Verdict}
    (hr : h.rescan = some ⟨party, stage⟩) (ha : Progress h party stage h' v)
    (hs : h'.Settled id w) : (party = .worker id ∧ stage = .enumerate) ∨ h.Settled id w := by
  have hworker := hs.worker
  rw [ha.workers_eq.1] at hworker
  rcases hs.position with hwait | ⟨stage', -, he⟩
  · exact .inr ⟨hworker, hs.queue, .inl hwait⟩
  · obtain rfl := ha.party_eq hr he
    by_cases hlist : stage = .enumerate
    · exact .inl ⟨rfl, hlist⟩
    · exact .inr ⟨hworker, hs.queue, .inr ⟨stage, hlist, hr⟩⟩

end Settled

end Hub

/-! ## The invariant -/

/-- A call that will make a worker list the devices, or that will list them itself for a worker that
was just registered. -/
def Call.Owes (id : Nat) : Call → Prop
  | notify .. => True
  | tell _ _ rest => .worker id ∈ rest
  | refresh registered => registered = some id
  | _ => False

namespace Session

/-- Nothing is under way that will still list the devices for a worker. -/
structure Quiet (σ : Session) (id : Nat) : Prop where
  calls : ∀ c ∈ σ.calls, ¬ c.Owes id
  first : .rescan (some id) ∈ σ.calls → ¬ σ.hub.IsListing
  settled : ∃ w, σ.hub.Settled id w

/-- A rescan is under way that a worker runs itself, or that registering it waits for. -/
def Awaited (σ : Session) (id : Nat) : Prop :=
  (∃ stage, σ.hub.rescan = some ⟨.worker id, stage⟩) ∨ .rescan (some id) ∈ σ.calls

/-- What is not covered is under way, for the registered worker. -/
def InStep (σ : Session) : Prop :=
  ∀ listener worker, σ.hub.registration = .active listener worker → σ.Quiet worker →
    σ.hub.Covered σ.last (σ.Awaited worker)

theorem inStep_start (config : Config) (core : Core) : (start config core).InStep := by
  intro l w hact
  cases hact

namespace InStep

variable {σ τ : Session}

/-- A step that leaves devices, rescan and registry alone, and after which nothing is quiet that was
not before. -/
theorem of_quiet (hi : σ.InStep) (hreg : τ.hub.registration = σ.hub.registration)
    (hd : τ.hub.platform.devices = σ.hub.platform.devices) (hr : τ.hub.rescan = σ.hub.rescan)
    (hs : τ.hub.snapshot = σ.hub.snapshot) (hl : τ.last = σ.last)
    (hcalls : ∀ id, .rescan (some id) ∈ σ.calls → .rescan (some id) ∈ τ.calls)
    (hq : ∀ l w, σ.hub.registration = .active l w → τ.Quiet w →
      (∀ c ∈ σ.calls, ¬ c.Owes w) ∧ ∃ w', σ.hub.Settled w w') : τ.InStep := by
  intro l w hact hquiet
  rw [hreg] at hact
  obtain ⟨hno, hset⟩ := hq l w hact hquiet
  have hquiet' : σ.Quiet w := by
    refine ⟨hno, fun hfirst hlist => ?_, hset⟩
    obtain ⟨party, hparty⟩ := hlist
    exact hquiet.first (hcalls w hfirst) ⟨party, hr.trans hparty⟩
  rw [hl]
  refine (hi l w hact hquiet').congr hd hr hs ?_
  rintro (⟨stage, he⟩ | hin)
  · exact .inl ⟨stage, hr.trans he⟩
  · exact .inr (hcalls w hin)

/-- A call is entered. -/
theorem enter (hi : σ.InStep) (c : Call) : (Session.mk σ.hub (c :: σ.calls) σ.last).InStep :=
  hi.of_quiet rfl rfl rfl rfl rfl (fun _ hin => List.mem_cons_of_mem _ hin)
    fun _ _ _ hq => ⟨fun c' hc' => hq.calls c' (List.mem_cons_of_mem _ hc'), hq.settled⟩

/-- A call goes on as others, which owe no less to the registered worker, or ends. -/
theorem replace (hi : σ.InStep) (c : Call) (cs : List Call) (hrescan : ∀ r, c ≠ .rescan r)
    (howes : ∀ l w, σ.hub.registration = .active l w → c.Owes w → ∃ c' ∈ cs, c'.Owes w) :
    (Session.mk σ.hub (cs ++ σ.calls.erase c) σ.last).InStep := by
  have hkept {c' : Call} (hc' : c' ∈ σ.calls) (hne : c' ≠ c) : c' ∈ cs ++ σ.calls.erase c :=
    List.mem_append_right _ ((List.mem_erase_of_ne hne).2 hc')
  refine hi.of_quiet rfl rfl rfl rfl rfl (fun id hin => hkept hin (hrescan _).symm)
    fun l w hact hq => ⟨fun c' hc' ho => ?_, hq.settled⟩
  by_cases he : c' = c
  · obtain ⟨c₁, hin, ho₁⟩ := howes l w hact (he ▸ ho)
    exact hq.calls c₁ (List.mem_append_left _ hin) ho₁
  · exact hq.calls c' (hkept hc' he) ho

/-- The hub changes, but not in what it has to do with the registered worker. -/
theorem of_hub (hi : σ.InStep) {h : Hub} (hreg : h.registration = σ.hub.registration)
    (hd : h.platform.devices = σ.hub.platform.devices) (hr : h.rescan = σ.hub.rescan)
    (hs : h.snapshot = σ.hub.snapshot)
    (hset : ∀ l id w, σ.hub.registration = .active l id → h.Settled id w → σ.hub.Settled id w) :
    (Session.mk h σ.calls σ.last).InStep :=
  hi.of_quiet hreg hd hr hs rfl (fun _ hin => hin)
    fun l w hact hq => ⟨hq.calls, hq.settled.imp fun w' => hset l w w' hact⟩

/-- A change of the hub that its workers have no part in. -/
theorem of_platform (hi : σ.InStep) {h : Hub} (hreg : h.registration = σ.hub.registration)
    (hd : h.platform.devices = σ.hub.platform.devices) (hr : h.rescan = σ.hub.rescan)
    (hs : h.snapshot = σ.hub.snapshot) (hw : h.workers = σ.hub.workers) :
    (Session.mk h σ.calls σ.last).InStep :=
  hi.of_hub hreg hd hr hs fun _ _ _ _ hset => ⟨hw ▸ hset.worker, hset.queue, hr ▸ hset.position⟩

theorem of_mailed (hi : σ.InStep) (hm : σ.hub.Manned) {i : Nat} {m : Message} {h : Hub}
    (hmail : Hub.Mailed σ.hub i m h) : (Session.mk h σ.calls σ.last).InStep := by
  have hset {id : Nat} {w : Worker} (hs : h.Settled id w) := hs.of_mailed hm hmail
  obtain ⟨workers, journal, rfl⟩ := hmail.rest
  exact hi.of_hub rfl rfl rfl rfl fun _ _ _ _ hs => (hset hs).2

/-- A stage of a rescan, by whatever party. -/
theorem of_progress (hi : σ.InStep) (hp : σ.hub.Plain) {party : Party} {stage : Stage} {h : Hub}
    {v : Option Verdict} (hr : σ.hub.rescan = some ⟨party, stage⟩)
    (ha : Hub.Progress σ.hub party stage h v) (hreg : τ.hub.registration = h.registration)
    (hd : τ.hub.platform.devices = h.platform.devices) (hr' : τ.hub.rescan = h.rescan)
    (hs : τ.hub.snapshot = h.snapshot) (hl : τ.last = v.or σ.last)
    (hcalls : ∀ c ∈ σ.calls, c ∈ τ.calls ∨ (v ≠ none ∧ ∃ r, c = .rescan r))
    (hset : ∀ id w, τ.hub.Settled id w →
      (party = .worker id ∧ stage = .enumerate) ∨ ∃ w', σ.hub.Settled id w') : τ.InStep := by
  intro l w hact hq
  rw [hreg, (Hub.SameWiring.progress ha).registration] at hact
  rw [hl]
  suffices hc : h.Covered (v.or σ.last) (τ.Awaited w) from hc.congr hd hr' hs id
  by_cases hlist : stage = .enumerate ∧ (party = .worker w ∨ .rescan (some w) ∈ σ.calls)
  · -- The devices are listed for the worker: nothing else needs to be known.
    obtain ⟨rfl, how⟩ := hlist
    refine Hub.Covered.listing ha ?_
    rintro rfl
    rcases how with rfl | hin
    · cases ha
      exact .inl ⟨_, hr'⟩
    · exact .inr ((hcalls _ hin).resolve_right fun h => h.1 rfl)
  · -- Otherwise the worker was quiet before.
    refine (hi l w hact ⟨fun c hc => ?_, fun hin => ?_, ?_⟩).progress hp hr ha
    · rcases hcalls c hc with hc | ⟨-, r, rfl⟩
      · exact hq.calls c hc
      · exact id
    · intro ⟨party', he⟩
      rw [hr, Option.some.injEq, Rescan.mk.injEq] at he
      exact hlist ⟨he.2, .inr hin⟩
    · obtain ⟨w', hw'⟩ := hq.settled
      exact (hset w w' hw').resolve_left fun h => hlist ⟨h.2, .inl h.1⟩

/-- A rescan begins. -/
theorem of_begin (hi : σ.InStep) {party : Party} (hnone : σ.hub.rescan = none)
    (hh : τ.hub = { σ.hub with rescan := some ⟨party, .enumerate⟩ }) (hl : τ.last = σ.last)
    (hcalls : ∀ w, τ.Quiet w → ∀ c ∈ σ.calls, ¬ c.Owes w) : τ.InStep := by
  intro l w hact hq
  rw [hh] at hact
  have hquiet : σ.Quiet w := by
    refine ⟨hcalls w hq, fun _ ⟨_, he⟩ => by simp [hnone] at he, ?_⟩
    obtain ⟨w', hw'⟩ := hq.settled
    rw [hh] at hw'
    refine ⟨w', hw'.worker, hw'.queue, .inl (hw'.position.resolve_right ?_)⟩
    intro ⟨stage, hne, he⟩
    simp only [Option.some.injEq, Rescan.mk.injEq] at he
    exact hne he.2.symm
  have hc := hi l w hact hquiet
  rw [Hub.Covered, hnone] at hc
  rw [hh, hl]
  exact hc

/-- A rescan goes on that the core held up. -/
theorem letGo (hi : σ.InStep) : (Session.mk σ.hub.letGo σ.calls σ.last).InStep := by
  unfold Hub.letGo
  split
  · rename_i party hr
    intro l w hact hq
    have hquiet : σ.Quiet w := by
      obtain ⟨w', hw'⟩ := hq.settled
      refine ⟨hq.calls, fun _ ⟨_, he⟩ => ?_, w', hw'.worker, hw'.queue, hw'.position.imp_right ?_⟩
      · simp [hr] at he
      · intro ⟨stage, _, he⟩
        obtain ⟨rfl, -⟩ := Rescan.mk.inj (Option.some.inj he)
        exact ⟨.held, by simp, hr⟩
    have hc := hi l w hact hquiet
    rw [Hub.Covered, hr] at hc
    exact hc
  · exact hi

/-- A caller's rescan begins. If it is the first one of a worker, it is about to list the devices
for it. -/
theorem begin (hi : σ.InStep) {registered : Option Nat} {h : Hub}
    (hb : σ.hub.begin? .caller = some h) :
    (Session.mk h (.rescan registered :: σ.calls.erase (.refresh registered)) σ.last).InStep := by
  obtain ⟨hnone, rfl⟩ := Hub.begin?_eq_some hb
  refine hi.of_begin hnone rfl rfl fun w hq c hc ho => ?_
  by_cases he : c = .refresh registered
  · obtain rfl : registered = some w := by rwa [he] at ho
    exact hq.first List.mem_cons_self ⟨.caller, rfl⟩
  · exact hq.calls c (List.mem_cons_of_mem _ ((List.mem_erase_of_ne he).2 hc)) ho

/-- A worker is told of a change: it owes a rescan from then on, not the call. -/
theorem tell (hi : σ.InStep) (hm : σ.hub.Manned) {id : Nat} {m : Message} {h : Hub}
    (hmail : Hub.Mailed σ.hub id m h) {change : Change} {device : Int32} {rest : List Subscriber} :
    (Session.mk h (.tell change device rest ::
      σ.calls.erase (.tell change device (.worker id :: rest))) σ.last).InStep := by
  have hset {i : Nat} {w : Worker} (hs : h.Settled i w) := hs.of_mailed hm hmail
  obtain ⟨workers, journal, rfl⟩ := hmail.rest
  have hkept {c : Call} (hc : c ∈ σ.calls) (hne : c ≠ .tell change device (.worker id :: rest)) :=
    List.mem_cons_of_mem (.tell change device rest) ((List.mem_erase_of_ne hne).2 hc)
  refine hi.of_quiet rfl rfl rfl rfl rfl (fun _ hin => hkept hin (by simp)) fun l w _ hq => ?_
  obtain ⟨w', hw'⟩ := hq.settled
  obtain ⟨hne, hsettled⟩ := hset hw'
  refine ⟨fun c hc ho => ?_, w', hsettled⟩
  by_cases he : c = .tell change device (.worker id :: rest)
  · rw [he] at ho
    refine hq.calls _ List.mem_cons_self ((List.mem_cons.1 ho).resolve_left fun h => ?_)
    exact hne (Subscriber.worker.inj h)
  · exact hq.calls c (hkept hc he) ho

/-! ### Workers -/

/-- No move on its queue settles a worker. -/
theorem not_settled_of_step? {h : Hub} (hm : h.Manned) {id : Nat} {w w' : Worker}
    {ns : List Notice} (hw : h.workers[id]? = some w) (hpos : w.position ≠ .rescanning)
    (hstep : w.step? = some (w', ns)) : ¬ ((h.note ns).setWorker id w').Settled id w' := by
  intro hset
  rcases hset.position with hwait | ⟨stage, -, he⟩
  · unfold Worker.step? at hstep
    split at hstep <;> simp only [Option.some.injEq, Prod.mk.injEq, reduceCtorEq] at hstep <;>
      obtain ⟨rfl, -⟩ := hstep <;> cases hwait
  · obtain ⟨w₁, hw₁, hpos₁⟩ := hm.rescanning he
    rw [hw, Option.some.injEq] at hw₁
    exact hpos (hw₁ ▸ hpos₁)

/-- A step of a worker. -/
theorem work (hi : σ.InStep) (hp : σ.hub.Plain) (hm : σ.hub.Manned) {id : Nat} {h : Hub}
    (hstep : σ.hub.workerStep? id = some h) :
    (Session.mk h σ.calls ((σ.hub.workerVerdict? id).or σ.last)).InStep := by
  obtain ⟨w, hw, hmove⟩ := Hub.workerStep?_cases hstep
  generalize σ.hub.workerVerdict? id = v at hmove
  cases hmove with
  | onQueue hpos hq =>
    refine hi.of_hub rfl rfl rfl rfl fun l i w' _ hset => ?_
    have hworker := hset.worker
    rw [Hub.workers_setWorker] at hworker
    split at hworker
    · rename_i heq
      subst heq
      obtain rfl := Option.some.inj hworker
      exact absurd hset (not_settled_of_step? hm hw hpos hq)
    · exact ⟨hworker, hset.queue, hset.position⟩
  | begins hpos hr => exact hi.of_begin hr rfl rfl fun _ hq => hq.calls
  | advances hpos hr ha =>
    have hprog := Hub.advance_cases hr ha
    exact hi.of_progress hp hr hprog rfl rfl rfl rfl rfl (fun c hc => .inl hc)
      fun _ w' hset => (hset.of_progress hr hprog).imp_right fun hs => ⟨w', hs⟩
  | ends journal hpos hr ha hw' =>
    have hprog := Hub.advance_cases hr ha
    refine hi.of_progress hp hr hprog rfl rfl rfl rfl rfl (fun c hc => .inl hc)
      fun i w₁ hset => ?_
    have hposition : w₁.position = .waiting := hset.position.resolve_right fun ⟨_, _, he⟩ => by
      simp [Hub.setWorker, hprog.rescan_eq_none] at he
    have hworker := hset.worker
    rw [Hub.workers_setWorker] at hworker
    split at hworker
    · -- The worker is done with the rescan and has had no message meanwhile.
      rename_i stage _ _ _ heq
      subst heq
      obtain rfl := Option.some.inj hworker
      rcases hw' with rfl | rfl
      · cases hposition
      · by_cases hlist : stage = .enumerate
        · exact .inl ⟨rfl, hlist⟩
        · exact .inr ⟨w, hw, hset.queue, .inr ⟨stage, hlist, hr⟩⟩
    · have hs : Hub.Settled _ i w₁ := ⟨hworker, hset.queue, .inl hposition⟩
      exact (hs.of_progress hr hprog).imp_right fun hs => ⟨w₁, hs⟩

end InStep

/-- Every step keeps the registry in step. -/
theorem Step.inStep {allowed : Descriptor → Prop} {σ τ : Session} (hstep : Step allowed σ τ)
    (hp : σ.hub.Plain) (hm : σ.hub.Manned) (hw : σ.Wired)
    (hconf : σ.hub.config.refreshOnRegister = true) (hi : σ.InStep) : τ.InStep := by
  cases hstep with
  | attach | change | detach =>
    -- The change is not told yet.
    intro l w _ hq
    exact absurd trivial (hq.calls (.notify _ _) List.mem_cons_self)
  | setAvailable | aside => exact hi.of_platform rfl rfl rfl rfl rfl
  | lookUp _ =>
    refine hi.replace (.notify _ _) [.tell _ _ _] (by simp) fun l w hact _ => ?_
    have hlisten := hw.listening (l, w) (mem_ownedBy hact _)
    exact ⟨_, List.mem_singleton_self _, mem_values_iff.2 ⟨l, hlisten⟩⟩
  | tell hc =>
    rename_i change device s rest
    cases s with
    | outsider =>
      refine hi.replace (.tell _ _ _) [.tell _ _ _] (by simp) fun l w _ ho => ?_
      exact ⟨_, List.mem_singleton_self _, (List.mem_cons.1 ho).resolve_left (by simp)⟩
    | worker id => exact hi.tell hm (Hub.mailed_post ..)
  | told _ => exact hi.replace (.tell _ _ _) [] (by simp) fun _ _ _ ho => nomatch ho
  | refresh => exact hi.enter _
  | begin hc hb => exact hi.begin hb
  | advance _ hr ha =>
    have hprog := Hub.advance_cases hr ha
    exact hi.of_progress hp hr hprog rfl rfl rfl rfl rfl (fun c hc => .inl hc)
      fun _ w' hset => (hset.of_progress hr hprog).imp_right fun hs => ⟨w', hs⟩
  | finish hc hr ha =>
    have hprog := Hub.advance_cases hr ha
    refine hi.of_progress hp hr hprog rfl rfl rfl rfl rfl (fun c hc' => ?_)
      fun _ w' hset => (hset.of_progress hr hprog).imp_right fun hs => ⟨w', hs⟩
    rename_i registered _ _ _
    by_cases he : c = .rescan registered
    · exact .inr ⟨by simp, registered, he⟩
    · exact .inl ((List.mem_erase_of_ne he).2 hc')
  | register _ _ _ =>
    refine (hi.enter (.listen _)).of_hub rfl rfl rfl rfl fun l id w hact hset => ?_
    have hlt := (hw.numbered (l, id) (mem_ownedBy hact _)).2
    have hworker := hset.worker
    simp only [Hub.startWorker] at hworker
    rw [Hub.workers_setWorker, if_neg hlt.ne'] at hworker
    exact ⟨hworker, hset.queue, hset.position⟩
  | poison | unregister =>
    intro l w hact
    cases hact
  | listen _ =>
    exact (hi.replace (.listen _) [.activate _ _] (by simp) fun _ _ _ ho => ho.elim).of_platform
      rfl rfl rfl rfl rfl
  | activate _ =>
    -- The first rescan is owed.
    intro l w hact hq
    obtain ⟨rfl, rfl⟩ := Registration.active.inj hact
    exact absurd rfl (hq.calls (.refresh (some _)) (by simp [hconf]))
  | unlisten _ =>
    exact (hi.replace (.unlisten _ _) [.stop _] (by simp) fun _ _ _ ho => ho.elim).of_platform
      rfl rfl rfl rfl rfl
  | stop _ =>
    exact (hi.replace (.stop _) [.join _] (by simp) fun _ _ _ ho => ho.elim).of_mailed hm
      (Hub.mailed_askToQuit ..)
  | join _ _ => exact hi.replace (.join _) [] (by simp) fun _ _ _ ho => ho.elim
  | work hstep => exact hi.work hp hm hstep
  | release => exact hi.letGo

/-! ## Idle sessions -/

/-- The invariants along a run. -/
structure Sound (σ : Session) : Prop where
  plain : σ.hub.Plain
  manned : σ.hub.Manned
  wired : σ.Wired
  refreshes : σ.hub.config.refreshOnRegister = true
  inStep : σ.InStep

theorem Steps.sound {config : Config} {core : Core} {σ : Session}
    (hconf : config.refreshOnRegister = true)
    (hrun : Steps (fun d => PlainSource d.source) (start config core) σ) : σ.Sound := by
  induction hrun with
  | refl =>
    exact ⟨plain_start .., manned_start .., wired_start .., hconf, inStep_start config core⟩
  | tail _ hstep ih =>
    obtain ⟨hp, hm, hw, hr, hi⟩ := ih
    exact ⟨hstep.plain hp, hstep.manned hm, hstep.wired hw, hstep.settings.config ▸ hr,
      hstep.inStep hp hm hw hr hi⟩

/-- A worker is registered by a call that has returned, it has no message and waits for one, and no
call of the platform has listeners to tell. -/
structure Idle (σ : Session) (worker : Nat) : Prop where
  registered : ∃ listener, σ.hub.registration = .active listener worker
  returned : .refresh (some worker) ∉ σ.calls ∧ .rescan (some worker) ∉ σ.calls
  waiting : σ.hub.workers[worker]? = some ⟨[], .waiting⟩
  told : ∀ c ∈ σ.calls, c.isTelling = false

theorem Idle.quiet {σ : Session} {w : Nat} (h : σ.Idle w) : σ.Quiet w where
  calls c hc ho := by
    have htold := h.told c hc
    cases c with
    | notify | tell => cases htold
    | refresh registered =>
      obtain rfl : registered = some w := ho
      exact h.returned.1 hc
    | rescan | listen | activate | unlisten | stop | join => exact ho
  first hin := absurd hin h.returned.2
  settled := ⟨_, h.waiting, rfl, .inl rfl⟩

theorem Idle.not_awaited {σ : Session} {w : Nat} (h : σ.Idle w) (hm : σ.hub.Manned) :
    ¬ σ.Awaited w := by
  rintro (⟨stage, hr⟩ | hin)
  · obtain ⟨w', hw', hpos⟩ := hm.rescanning hr
    rw [h.waiting, Option.some.injEq] at hw'
    rw [← hw'] at hpos
    cases hpos
  · exact h.returned.2 hin

theorem Idle.agrees {σ : Session} {w : Nat} (h : σ.Idle w) (hs : σ.Sound)
    (hlast : σ.last = some .done) : σ.hub.Agrees := by
  obtain ⟨l, hact⟩ := h.registered
  have hc := hs.inStep l w hact h.quiet
  unfold Hub.Covered at hc
  split at hc
  · exact hc.2.resolve_left (h.not_awaited hs.manned) hlast
  · exact hc
  · exact hc
  · exact hc
  · exact hc hlast
  · exact hc hlast

/-- However calls, changes and rescans were interleaved: when the registered worker is idle and the
last rescan succeeded, the registry has the devices that are attached, as they are described. -/
theorem agrees_when_idle {config : Config} {core : Core} {σ : Session} {w : Nat}
    (hconf : config.refreshOnRegister = true)
    (hrun : Steps (fun d => PlainSource d.source) (start config core) σ) (hidle : σ.Idle w)
    (hlast : σ.last = some .done) :
    (∀ id, (σ.hub.snapshot.getById? id).isSome ↔ id ∈ σ.hub.platform.devices) ∧
      ∀ id d, σ.hub.platform.devices[id]? = some d →
        ∃ dev, σ.hub.snapshot.getById? id = some dev ∧ dev.Shows d := by
  have hs := Steps.sound hconf hrun
  have hagree : σ.hub.Agrees := hidle.agrees hs hlast
  have hfound : ∀ id d, σ.hub.platform.devices[id]? = some d →
      ∃ dev, σ.hub.snapshot.getById? id = some dev ∧ dev.Shows d := by
    intro id d hd
    obtain ⟨dev, hget, -, hshows, -⟩ := hagree.found (hs.plain.firstWith?_values hd)
    exact ⟨dev, hget, hshows⟩
  refine ⟨fun id => ?_, hfound⟩
  rw [Std.TreeMap.mem_iff_isSome_getElem?]
  cases hd : σ.hub.platform.devices[id]? with
  | some d =>
    obtain ⟨dev, hget, -⟩ := hfound id d hd
    simp [hget]
  | none =>
    have hnone : σ.hub.snapshot.getById? id = none := by
      refine hagree.missing fun e he hid => ?_
      obtain ⟨i, hi⟩ := mem_values_iff.1 he
      rw [← hs.plain.keyed hi, hid, hd] at hi
      cases hi
    simp [hnone]

/-- A hub with a device attached. -/
def supplied : Session :=
  ⟨(Hub.create .standard ⟨false, [], false, false, []⟩).attach (.bare 7 "Mock" "Pad"), [], none⟩

/-- The listener is registered. -/
def attended : Session :=
  ⟨supplied.hub.register.1, supplied.calls, some supplied.hub.register.2⟩

/-- A device is attached, and the worker has listed the devices but not gone further. -/
def halfway : Session :=
  work ⟨{ attended.hub with
    platform := attended.hub.platform.put (.bare 3 "Mock" "Wheel") }.tellAll .added 3,
    attended.calls, attended.last⟩ 0 4

/-- Another device is attached during that rescan, and the worker goes on. -/
def overtaken : Session :=
  work ⟨{ halfway.hub with
    platform := halfway.hub.platform.put (.bare 9 "Mock" "Pad") }.tellAll .added 9,
    halfway.calls, halfway.last⟩ 0 20

theorem agrees_when_overtaken : overtaken.Idle 0 ∧ overtaken.last = some .done ∧
    (∀ id, (overtaken.hub.snapshot.getById? id).isSome ↔ id ∈ overtaken.hub.platform.devices) ∧
    ∀ id d, overtaken.hub.platform.devices[id]? = some d →
      ∃ dev, overtaken.hub.snapshot.getById? id = some dev ∧ dev.Shows d := by
  have hsupplied : Steps (fun d => PlainSource d.source)
      (start .standard ⟨false, [], false, false, []⟩) supplied :=
    (Step.attach (.bare 7 "Mock" "Pad") (by decide)).andThen (steps_tellAll ..)
  have hattended := hsupplied.trans ((ends_register (by decide +kernel) (by decide +kernel)
    (by decide +kernel) (by decide +kernel) (by decide +kernel)).steps (by decide +kernel))
  have hhalfway := (hattended.tail (.attach (.bare 3 "Mock" "Wheel") (by decide))).trans
    ((steps_tellAll ..).trans (steps_work _ 0 4))
  have hovertaken := (hhalfway.tail (.attach (.bare 9 "Mock" "Pad") (by decide))).trans
    ((steps_tellAll ..).trans (steps_work _ 0 20))
  have hidle : overtaken.Idle 0 := ⟨⟨0, by decide +kernel⟩, by decide +kernel, by decide +kernel,
    by decide +kernel⟩
  have hlast : overtaken.last = some .done := by decide +kernel
  exact ⟨hidle, hlast, agrees_when_idle rfl hovertaken hidle hlast⟩

end Session

end InputHub
