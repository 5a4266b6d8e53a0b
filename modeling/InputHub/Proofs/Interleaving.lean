import InputHub.Hub.Listener

/-!
# Interleaved calls to a hub

A hub is called from many sides at once, and its workers go on in between. A `Session` is a hub with
the calls that are under way, each by what it does next, and a `Step` is the next thing that any of
them, or any worker, does. What a lock protects is one step; everything else may come in between.

* attaching, changing and detaching a device write the device table, look up the listeners and then
  tell them one by one;
* a refresh waits for its turn and then goes through the stages of a rescan;
* registering starts a worker, makes it listen, enters it as registered and rescans; until it is
  entered no other call registers or unregisters;
* unregistering takes the registration away, stops listening, asks the worker to quit and waits for
  its end.

`Hub.advance_cases` and `Hub.workerStep?_cases` say all that a stage of a rescan and a step of a
worker can do.
-/

namespace InputHub

deriving instance DecidableEq for Verdict

/-- Where a list is cut that has one more member: at that member, or before it. -/
theorem concat_eq_append_cons {α : Type} {xs before after : List α} {x y : α}
    (h : xs ++ [x] = before ++ y :: after) :
    (xs = before ∧ x = y ∧ after = []) ∨
      ∃ after', after = after' ++ [x] ∧ xs = before ++ y :: after' := by
  rcases List.eq_nil_or_concat after with rfl | ⟨after', z, rfl⟩
  · obtain ⟨hxs, hx⟩ := List.append_inj' h rfl
    exact .inl ⟨hxs, List.singleton_inj.1 hx, rfl⟩
  · have h' : xs ++ [x] = (before ++ y :: after') ++ [z] := by simpa using h
    obtain ⟨hxs, hx⟩ := List.append_inj' h' rfl
    obtain rfl := List.singleton_inj.1 hx
    exact .inr ⟨after', by simp, hxs⟩

/-- A call under way, by what it does next. -/
inductive Call where
  /-- The device table was written; the listeners are to be looked up. -/
  | notify (change : Change) (device : Int32)
  /-- These listeners are still to be told. -/
  | tell (change : Change) (device : Int32) (rest : List Subscriber)
  /-- A rescan waits for its turn: the first one of a registered worker, or any other. -/
  | refresh (registered : Option Nat)
  /-- A rescan is under way. -/
  | rescan (registered : Option Nat)
  /-- A worker was started and is to listen. -/
  | listen (worker : Nat)
  /-- A worker listens and is to be entered as registered. -/
  | activate (listener worker : Nat)
  /-- A worker is no longer registered and is to stop listening. -/
  | unlisten (listener worker : Nat)
  /-- A worker is to be asked to quit. -/
  | stop (worker : Nat)
  /-- A worker is to end. -/
  | join (worker : Nat)
  deriving DecidableEq

/-- Whether no other call may register or unregister meanwhile. -/
def Call.isRegistering : Call → Bool
  | listen .. | activate .. => true
  | _ => false

/-- Whether the call is one of the platform that has listeners to tell. -/
def Call.isTelling : Call → Bool
  | notify .. | tell .. => true
  | _ => false

namespace Hub

/-- How a worker's rescan ends with its next step, if it does. -/
def workerVerdict? (h : Hub) (id : Nat) : Option Verdict :=
  match h.workers[id]?, h.rescan with
  | some w, some r => if w.position = .rescanning ∧ r.party = .worker id then h.advance.2 else none
  | _, _ => none

/-- Whether a worker is there that has not ended. -/
def isWorking (h : Hub) (id : Nat) : Bool := (h.workers[id]?).any Worker.isAlive

/-! ## Messages to workers -/

theorem workers_setWorker (h : Hub) (id : Nat) (w : Worker) (i : Nat) :
    (h.setWorker id w).workers[i]? = if id = i then some w else h.workers[i]? := by
  simp [setWorker, Std.TreeMap.getElem?_insert]

/-- A message was sent to a worker, who has it unless it has ended, and nothing else happened. -/
structure Mailed (h : Hub) (id : Nat) (m : Message) (h' : Hub) : Prop where
  rest : ∃ workers journal, h' = { h with workers, journal }
  worker : h'.workers[id]? = (h.workers[id]?).map fun w => if w.isAlive then w.post m else w
  others {i : Nat} : i ≠ id → h'.workers[i]? = h.workers[i]?

/-- Posting a message to a worker that has not ended, and writing at most a notice otherwise. -/
theorem mailed (h : Hub) (id : Nat) (m : Message) (journal : List Notice) :
    Mailed h id m
      (match h.workers[id]? with
      | some w => if w.isAlive then h.setWorker id (w.post m) else { h with journal }
      | none => { h with journal }) := by
  cases hw : h.workers[id]? with
  | none => exact ⟨⟨_, _, rfl⟩, by simp [hw], fun _ => rfl⟩
  | some w =>
    by_cases ha : w.isAlive
    · simp only [ha, if_true]
      exact ⟨⟨_, _, rfl⟩, by simp [workers_setWorker, hw, ha],
        fun hi => by simp [workers_setWorker, Ne.symm hi]⟩
    · simp only [ha, Bool.false_eq_true, if_false]
      exact ⟨⟨_, _, rfl⟩, by simp [hw, ha], fun _ => rfl⟩

theorem mailed_post (h : Hub) (id : Nat) (change : Change) (device : Int32) :
    Mailed h id (.rescan change device) (h.post id change device) :=
  mailed h id _ (h.journal ++ [.requestDropped change device])

theorem mailed_askToQuit (h : Hub) (id : Nat) : Mailed h id .quit (h.askToQuit id) :=
  mailed h id .quit h.journal

/-- A message moves no worker. -/
theorem Mailed.position {h h' : Hub} {id i : Nat} {m : Message} (hm : Mailed h id m h')
    {w' : Worker} (hw' : h'.workers[i]? = some w') :
    ∃ w, h.workers[i]? = some w ∧ w.position = w'.position := by
  by_cases hi : i = id
  · subst hi
    rw [hm.worker] at hw'
    obtain ⟨w, hw, rfl⟩ := Option.map_eq_some_iff.1 hw'
    exact ⟨w, hw, by split <;> rfl⟩
  · exact ⟨w', (hm.others hi).symm.trans hw', rfl⟩

/-! ## What a stage and a worker's step can do -/

theorem begin?_eq_some {h h' : Hub} {party : Party} (hb : h.begin? party = some h') :
    h.rescan = none ∧ h' = { h with rescan := some ⟨party, .enumerate⟩ } := by
  unfold begin? at hb
  split at hb
  · cases hb
  · exact ⟨‹_›, (Option.some.inj hb).symm⟩

/-- All that a stage of a rescan can do, with the verdict if it is the last. -/
inductive Progress (h : Hub) (party : Party) : Stage → Hub → Option Verdict → Prop
  | listed : h.platform.available = true → Progress h party .enumerate
      { h with
        platform := { h.platform with enumerations := h.platform.enumerations + 1 }
        rescan := some ⟨party, .install h.platform.devices.values⟩ } none
  | refused : h.platform.available = false → Progress h party .enumerate
      { h with rescan := none } (some (.failed MemoryPlatform.offline))
  | installed (found : List Descriptor) : Progress h party (.install found)
      ({ h with
        snapshot := h.snapshot.rebuild found
        rescan := some ⟨party, .announce⟩ }.note (h.snapshot.rebuildNotices found)) none
  | brokenOff {core : Core} : core = h.core.record (.devicesChanged h.snapshot party) →
      core.breaks = true → Progress h party .announce
      { h with core := { core with breaking := false }, rescan := none } (some .broken)
  | heldUp {core : Core} : core = h.core.record (.devicesChanged h.snapshot party) →
      core.breaks = false → core.holds party = true → Progress h party .announce
      { h with core := { core with holding := false }, rescan := some ⟨party, .held⟩ } none
  | announced {core : Core} : core = h.core.record (.devicesChanged h.snapshot party) →
      core.breaks = false → core.holds party = false → Progress h party .announce
      { h with core, rescan := some ⟨party, .publish⟩ } none
  | stays : Progress h party .held h none
  | published : Progress h party .publish
      { h with
        published := h.snapshot.generation
        publications := h.publications + 1
        rescan := none } (some .done)

theorem advance_cases {h h' : Hub} {party : Party} {stage : Stage} {v : Option Verdict}
    (hr : h.rescan = some ⟨party, stage⟩) (ha : h.advance = (h', v)) :
    Progress h party stage h' v := by
  cases stage with
  | enumerate =>
    cases havail : h.platform.available with
    | true =>
      have hlist : h.platform.enumerate = (.ok h.platform.devices.values,
        { h.platform with enumerations := h.platform.enumerations + 1 }) := if_pos havail
      simp only [advance, hr, hlist, Prod.mk.injEq] at ha
      obtain ⟨rfl, rfl⟩ := ha
      exact .listed havail
    | false =>
      have hlist : h.platform.enumerate = (.error MemoryPlatform.offline, h.platform) :=
        if_neg (by simp [havail])
      simp only [advance, hr, hlist, Prod.mk.injEq] at ha
      obtain ⟨rfl, rfl⟩ := ha
      exact .refused havail
  | install found =>
    simp only [advance, hr, Prod.mk.injEq] at ha
    obtain ⟨rfl, rfl⟩ := ha
    exact .installed found
  | announce =>
    simp only [advance, hr] at ha
    split at ha
    · obtain ⟨rfl, rfl⟩ := Prod.mk.inj ha
      exact .brokenOff rfl ‹_›
    · have hbreaks := Bool.eq_false_iff.2 ‹_›
      split at ha
      · obtain ⟨rfl, rfl⟩ := Prod.mk.inj ha
        exact .heldUp rfl hbreaks ‹_›
      · obtain ⟨rfl, rfl⟩ := Prod.mk.inj ha
        exact .announced rfl hbreaks (Bool.eq_false_iff.2 ‹_›)
  | held =>
    simp only [advance, hr, Prod.mk.injEq] at ha
    obtain ⟨rfl, rfl⟩ := ha
    exact .stays
  | publish =>
    simp only [advance, hr, Prod.mk.injEq] at ha
    obtain ⟨rfl, rfl⟩ := ha
    exact .published

namespace Progress

variable {h h' : Hub} {party : Party} {stage : Stage} {v : Option Verdict}

/-- A stage of a rescan leaves every worker where it is. -/
theorem workers_eq (ha : Progress h party stage h' v) :
    h'.workers = h.workers ∧ h'.nextWorker = h.nextWorker := by
  cases ha <;> exact ⟨rfl, rfl⟩

/-- A rescan is handed to nobody else. -/
theorem party_eq (ha : Progress h party stage h' v) (hr : h.rescan = some ⟨party, stage⟩)
    {party' : Party} {stage' : Stage} (hr' : h'.rescan = some ⟨party', stage'⟩) :
    party' = party := by
  cases ha <;> simp_all [note]

/-- The last stage of a rescan leaves none under way. -/
theorem rescan_eq_none {v : Verdict} (ha : Progress h party stage h' (some v)) :
    h'.rescan = none := by
  cases ha <;> rfl

theorem verdict_ne_blocked {v : Verdict} (ha : Progress h party stage h' (some v)) :
    v ≠ .blocked := by
  cases ha <;> simp

/-- A stage that is not the last leaves the rescan under way. -/
theorem goes_on (ha : Progress h party stage h' none) (hr : h.rescan = some ⟨party, stage⟩) :
    ∃ stage', h'.rescan = some ⟨party, stage'⟩ := by
  cases ha with
  | stays => exact ⟨.held, hr⟩
  | listed | installed | heldUp | announced => exact ⟨_, rfl⟩

end Progress

/-- All that a step of a worker can do, with the verdict on its rescan if it ends one. -/
inductive WorkerMove (h : Hub) (id : Nat) (w : Worker) : Hub → Option Verdict → Prop
  | onQueue {w' : Worker} {ns : List Notice} : w.position ≠ .rescanning →
      w.step? = some (w', ns) → WorkerMove h id w ((h.note ns).setWorker id w') none
  | begins : w.position = .rescanning → h.rescan = none →
      WorkerMove h id w { h with rescan := some ⟨.worker id, .enumerate⟩ } none
  | advances {stage : Stage} {h' : Hub} : w.position = .rescanning →
      h.rescan = some ⟨.worker id, stage⟩ → h.advance = (h', none) → WorkerMove h id w h' none
  | ends {stage : Stage} {h' : Hub} {v : Verdict} {w' : Worker} (journal : List Notice) :
      w.position = .rescanning → h.rescan = some ⟨.worker id, stage⟩ →
      h.advance = (h', some v) → w' = w.crash ∨ w' = w.resume →
      WorkerMove h id w { h'.setWorker id w' with journal } (some v)

theorem workerStep?_cases {h h' : Hub} {id : Nat} (hstep : h.workerStep? id = some h') :
    ∃ w, h.workers[id]? = some w ∧ WorkerMove h id w h' (h.workerVerdict? id) := by
  obtain ⟨w, hw, hmove⟩ := Option.bind_eq_some_iff.1 hstep
  refine ⟨w, hw, ?_⟩
  by_cases hpos : w.position = .rescanning
  · simp only [hpos] at hmove
    cases hr : h.rescan with
    | none =>
      simp only [hr, begin?, Option.some.injEq] at hmove
      subst hmove
      have hv : h.workerVerdict? id = none := by simp [workerVerdict?, hw, hr]
      rw [hv]
      exact .begins hpos hr
    | some r =>
      obtain ⟨party, stage⟩ := r
      simp only [hr] at hmove
      split at hmove
      · cases hmove
      · rename_i hfree
        obtain rfl : party = .worker id := Decidable.not_not.1 fun hne => hfree (.inl hne)
        rcases ha : h.advance with ⟨h₁, v⟩
        have hv : h.workerVerdict? id = v := by simp [workerVerdict?, hw, hr, hpos, ha]
        rw [hv]
        simp only [ha] at hmove
        -- What a worker does with each verdict.
        rcases v with - | (- | e | - | -)
        · obtain rfl := Option.some.inj hmove
          exact .advances hpos hr ha
        all_goals
          obtain rfl := Option.some.inj hmove
        · exact .ends h₁.journal hpos hr ha (.inr rfl)
        · exact .ends _ hpos hr ha (.inr rfl)
        · exact .ends h₁.journal hpos hr ha (.inl rfl)
        · exact .ends h₁.journal hpos hr ha (.inr rfl)
  · have hv : h.workerVerdict? id = none := by
      cases hr : h.rescan <;> simp [workerVerdict?, hw, hr, hpos]
    rw [hv]
    have hqueue : (w.step?).map (fun p => (h.note p.2).setWorker id p.1) = some h' := by
      cases hp : w.position <;> simp_all
    obtain ⟨⟨w', ns⟩, hw', rfl⟩ := Option.map_eq_some_iff.1 hqueue
    exact .onQueue hpos hw'

end Hub

/-- A hub with the calls under way, and how the last rescan that ended did so. -/
structure Session where
  hub : Hub
  calls : List Call
  last : Option Verdict

namespace Session

/-- A hub that was just created. -/
def start (config : Config) (core : Core) : Session := ⟨.create config core, [], none⟩

/-- Whether a call registers that lets no other register or unregister. -/
def isRegistering (σ : Session) : Bool := σ.calls.any Call.isRegistering

/-- The next thing that happens. Only devices that are `allowed` are attached. -/
inductive Step (allowed : Descriptor → Prop) (σ : Session) : Session → Prop
  | attach (d : Descriptor) : allowed d → Step allowed σ
      { σ with
        hub := { σ.hub with platform := σ.hub.platform.put d }
        calls := .notify .added d.platformId :: σ.calls }
  | change (d : Descriptor) : allowed d → Step allowed σ
      { σ with
        hub := { σ.hub with platform := σ.hub.platform.put d }
        calls := .notify .changed d.platformId :: σ.calls }
  | detach (device : Int32) : σ.hub.platform.devices.contains device → Step allowed σ
      { σ with
        hub := { σ.hub with platform := σ.hub.platform.remove device }
        calls := .notify .removed device :: σ.calls }
  | setAvailable (b : Bool) : Step allowed σ
      { σ with hub := { σ.hub with platform := σ.hub.platform.setAvailable b } }
  | lookUp {change : Change} {device : Int32} : .notify change device ∈ σ.calls → Step allowed σ
      { σ with
        calls := .tell change device σ.hub.platform.listeners.values ::
          σ.calls.erase (.notify change device) }
  | tell {change : Change} {device : Int32} {l : Subscriber} {rest : List Subscriber} :
      .tell change device (l :: rest) ∈ σ.calls → Step allowed σ
      { σ with
        hub := σ.hub.tell change device l
        calls := .tell change device rest :: σ.calls.erase (.tell change device (l :: rest)) }
  | told {change : Change} {device : Int32} : .tell change device [] ∈ σ.calls → Step allowed σ
      { σ with calls := σ.calls.erase (.tell change device []) }
  | refresh : Step allowed σ { σ with calls := .refresh none :: σ.calls }
  | begin {registered : Option Nat} {h : Hub} : .refresh registered ∈ σ.calls →
      σ.hub.begin? .caller = some h → Step allowed σ
      { σ with hub := h, calls := .rescan registered :: σ.calls.erase (.refresh registered) }
  | advance {registered : Option Nat} {stage : Stage} {h : Hub} : .rescan registered ∈ σ.calls →
      σ.hub.rescan = some ⟨.caller, stage⟩ → σ.hub.advance = (h, none) → Step allowed σ
      { σ with hub := h }
  | finish {registered : Option Nat} {stage : Stage} {h : Hub} {v : Verdict} :
      .rescan registered ∈ σ.calls → σ.hub.rescan = some ⟨.caller, stage⟩ →
      σ.hub.advance = (h, some v) → Step allowed σ
      { hub := h, calls := σ.calls.erase (.rescan registered), last := some v }
  | register : σ.hub.registration = .absent → σ.isRegistering = false →
      '\x00' ∉ σ.hub.config.workerName.toList → Step allowed σ
      { σ with hub := σ.hub.startWorker.2, calls := .listen σ.hub.startWorker.1 :: σ.calls }
  | poison : σ.hub.registration = .absent → σ.isRegistering = false →
      '\x00' ∈ σ.hub.config.workerName.toList → Step allowed σ
      { σ with hub := { σ.hub with registration := .poisoned } }
  | listen {worker : Nat} : .listen worker ∈ σ.calls → Step allowed σ
      { σ with
        hub := { σ.hub with platform := (σ.hub.platform.listen (.worker worker)).2 }
        calls := .activate (σ.hub.platform.listen (.worker worker)).1 worker ::
          σ.calls.erase (.listen worker) }
  | activate {listener worker : Nat} : .activate listener worker ∈ σ.calls → Step allowed σ
      { σ with
        hub := { σ.hub with registration := .active listener worker }.note
          [.registered σ.hub.config.workerName]
        calls := (if σ.hub.config.refreshOnRegister then [.refresh (some worker)] else []) ++
          σ.calls.erase (.activate listener worker) }
  | unregister {listener worker : Nat} : σ.hub.registration = .active listener worker →
      σ.isRegistering = false → Step allowed σ
      { σ with
        hub := { σ.hub with registration := .absent }
        calls := .unlisten listener worker :: σ.calls }
  | unlisten {listener worker : Nat} : .unlisten listener worker ∈ σ.calls → Step allowed σ
      { σ with
        hub := { σ.hub with platform := σ.hub.platform.unlisten listener }
        calls := .stop worker :: σ.calls.erase (.unlisten listener worker) }
  | stop {worker : Nat} : .stop worker ∈ σ.calls → Step allowed σ
      { σ with
        hub := σ.hub.askToQuit worker
        calls := .join worker :: σ.calls.erase (.stop worker) }
  | join {worker : Nat} : .join worker ∈ σ.calls → σ.hub.isWorking worker = false →
      Step allowed σ { σ with calls := σ.calls.erase (.join worker) }
  | work {worker : Nat} {h : Hub} : σ.hub.workerStep? worker = some h → Step allowed σ
      { σ with hub := h, last := (σ.hub.workerVerdict? worker).or σ.last }
  | release : Step allowed σ { σ with hub := σ.hub.letGo }
  /-- What leaves devices, registry and workers alone: events are routed, sampling is suspended or
  resumed, notices are written, the core comes to hold up or to break off rescans. -/
  | aside (core : Core) (journal : List Notice) (sampling : Sampling) : Step allowed σ
      { σ with
        hub := { σ.hub with core, journal, platform := { σ.hub.platform with sampling } } }

/-- What can come of a session. -/
inductive Steps (allowed : Descriptor → Prop) (σ : Session) : Session → Prop
  | refl : Steps allowed σ σ
  | tail {τ υ : Session} : Steps allowed σ τ → Step allowed τ υ → Steps allowed σ υ

end Session

end InputHub
