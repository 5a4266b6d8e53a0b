import InputHub.Proofs.Wiring

/-!
# Requests without interruption

Each request to a hub is a row of steps of a session, with nothing of another call in between:

* `Session.exists_steps_notify`: after a change the listeners are told and the registered worker
  goes on until it waits;
* `Session.ends_rescan`: a rescan goes from stage to stage;
* `Session.ends_register` and `Session.steps_unregister`: the listener comes and goes.

So every hub that requests lead to, one after the other, is that of a session
(`Session.exists_steps_performAll`).
-/

namespace InputHub

namespace Hub

/-- The hub with a worker started, listening and entered as registered. -/
def enlist (h : Hub) : Hub :=
  let (worker, h) := h.startWorker
  let (listener, platform) := h.platform.listen (.worker worker)
  { h with platform, registration := .active listener worker }.note
    [.registered h.config.workerName]

theorem register_eq {h : Hub} (hreg : h.registration = .absent)
    (hname : '\x00' ∉ h.config.workerName.toList) (hfault : h.listenFault = none) :
    h.register = if h.config.refreshOnRegister then h.enlist.refresh .caller
      else (h.enlist, .done) := by
  simp [register, hreg, hname, hfault, enlist, startWorker, setWorker, note]

/-- Unregistering ends with its worker, except for a notice. -/
theorem unregister_eq {h : Hub} {l w : Nat} (hreg : h.registration = .active l w)
    (hfault : h.unlistenFault = none) : ∃ journal, h.unregister.1 =
      { ({ h with registration := .absent, platform := h.platform.unlisten l }.stopWorker w).1 with
        journal } := by
  cases h with
  | mk =>
    dsimp only at hreg hfault
    subst hreg hfault
    unfold unregister
    dsimp only
    rcases stopWorker _ w with ⟨h₁, e | _⟩
    · exact ⟨h₁.journal, rfl⟩
    · cases h₁ with
      | mk _ _ _ fault => cases fault <;> exact ⟨_, rfl⟩

end Hub

namespace Session

variable {allowed : Descriptor → Prop} {σ τ υ : Session} {calls : List Call}
  {last : Option Verdict} {h h' : Hub} {v : Verdict}

theorem Steps.trans (hfirst : Steps allowed σ τ) (hthen : Steps allowed τ υ) :
    Steps allowed σ υ := by
  induction hthen with
  | refl => exact hfirst
  | tail _ hstep ih => exact .tail ih hstep

/-- A step and what follows it. -/
theorem Step.andThen (hstep : Step allowed σ τ) (hthen : Steps allowed τ υ) : Steps allowed σ υ :=
  Steps.trans (.tail .refl hstep) hthen

/-! ## Workers -/

/-- Lets a worker make up to `n` steps. -/
def work (σ : Session) (id : Nat) : (n : Nat) → Session
  | 0 => σ
  | n + 1 =>
    match σ.hub.workerStep? id with
    | none => σ
    | some h => work { σ with hub := h, last := (σ.hub.workerVerdict? id).or σ.last } id n

theorem work_spec (σ : Session) (id n : Nat) :
    (σ.work id n).hub = σ.hub.runWorker id n ∧ (σ.work id n).calls = σ.calls := by
  induction n generalizing σ with
  | zero => exact ⟨rfl, rfl⟩
  | succ n ih =>
    rw [work, Hub.runWorker]
    cases σ.hub.workerStep? id with
    | none => exact ⟨rfl, rfl⟩
    | some h => exact ih _

theorem steps_work (σ : Session) (id n : Nat) : Steps allowed σ (σ.work id n) := by
  induction n generalizing σ with
  | zero => exact .refl
  | succ n ih =>
    rw [work]
    split
    · exact .refl
    · exact (Step.work ‹_›).andThen (ih _)

theorem exists_steps_runWorker (σ : Session) (id n : Nat) :
    ∃ last', Steps allowed σ ⟨σ.hub.runWorker id n, σ.calls, last'⟩ := by
  obtain ⟨hhub, hcalls⟩ := work_spec σ id n
  refine ⟨(σ.work id n).last, ?_⟩
  rw [← hhub, ← hcalls]
  exact steps_work ..

/-- A worker goes on until it waits, is held up or has ended. -/
theorem exists_steps_settle (σ : Session) (id : Nat) :
    ∃ last', Steps allowed σ ⟨σ.hub.settle id, σ.calls, last'⟩ := by
  unfold Hub.settle
  cases σ.hub.workers[id]? with
  | none => exact ⟨σ.last, .refl⟩
  | some w => exact exists_steps_runWorker ..

/-! ## Changes of the platform -/

/-- The listeners are told one by one. -/
theorem steps_tell (h : Hub) (change : Change) (device : Int32) (ls : List Subscriber) :
    Steps allowed ⟨h, .tell change device ls :: calls, last⟩
      ⟨ls.foldl (fun h l => h.tell change device l) h, calls, last⟩ := by
  induction ls generalizing h with
  | nil =>
    have hstep : Step allowed ⟨h, .tell change device [] :: calls, last⟩ _ :=
      .told List.mem_cons_self
    rw [List.erase_cons_head] at hstep
    exact hstep.andThen .refl
  | cons l ls ih =>
    have hstep : Step allowed ⟨h, .tell change device (l :: ls) :: calls, last⟩ _ :=
      .tell List.mem_cons_self
    rw [List.erase_cons_head] at hstep
    exact hstep.andThen (ih _)

theorem steps_tellAll (h : Hub) (change : Change) (device : Int32) :
    Steps allowed ⟨h, .notify change device :: calls, last⟩
      ⟨h.tellAll change device, calls, last⟩ := by
  have hstep : Step allowed ⟨h, .notify change device :: calls, last⟩ _ :=
    .lookUp List.mem_cons_self
  rw [List.erase_cons_head] at hstep
  exact hstep.andThen (steps_tell ..)

/-- The listeners are told of a change and the registered worker goes on. -/
theorem exists_steps_notify (h : Hub) (change : Change) (device : Int32) :
    ∃ last', Steps allowed ⟨h, .notify change device :: calls, last⟩
      ⟨(h.tellAll change device).settleWorker, calls, last'⟩ := by
  have htell : Steps allowed ⟨h, .notify change device :: calls, last⟩ _ := steps_tellAll ..
  unfold Hub.settleWorker
  split
  · rename_i worker _
    obtain ⟨last', hsettle⟩ := exists_steps_settle ⟨h.tellAll change device, calls, last⟩ worker
    exact ⟨last', htell.trans hsettle⟩
  · exact ⟨last, htell⟩

/-! ## Rescans -/

/-- A request leads to a hub: it returns with its verdict, or it is blocked and still under way. -/
def Ends (allowed : Descriptor → Prop) (σ : Session) (calls : List Call) (h : Hub) (v : Verdict) :
    Prop :=
  if v = .blocked then
    ∃ c, c.isRegistering = false ∧ ∃ last, Steps allowed σ ⟨h, c :: calls, last⟩
  else Steps allowed σ ⟨h, calls, some v⟩

theorem Ends.steps (he : Ends allowed σ calls h v) (hv : v ≠ .blocked) :
    Steps allowed σ ⟨h, calls, some v⟩ := by
  rwa [Ends, if_neg hv] at he

theorem Ends.of_steps (hsteps : Steps allowed σ τ) (he : Ends allowed τ calls h v) :
    Ends allowed σ calls h v := by
  unfold Ends at he ⊢
  split
  · rename_i hv
    rw [if_pos hv] at he
    obtain ⟨c, hc, last, hrest⟩ := he
    exact ⟨c, hc, last, hsteps.trans hrest⟩
  · rename_i hv
    rw [if_neg hv] at he
    exact hsteps.trans he

theorem Ends.exists_steps (he : Ends allowed σ calls h v)
    (hfree : calls.any Call.isRegistering = false) :
    ∃ τ, Steps allowed σ τ ∧ τ.hub = h ∧ τ.isRegistering = false := by
  unfold Ends at he
  split at he
  · obtain ⟨c, hc, last, hsteps⟩ := he
    exact ⟨_, hsteps, rfl, by simp [isRegistering, hc, hfree]⟩
  · exact ⟨_, he, rfl, hfree⟩

/-- A rescan that has begun goes on by its stages. -/
theorem ends_finish {registered : Option Nat} {stage : Stage} {n : Nat}
    (hr : h.rescan = some ⟨.caller, stage⟩) :
    Ends allowed ⟨h, .rescan registered :: calls, last⟩ calls (h.finish n).1 (h.finish n).2 := by
  induction n generalizing h stage with
  | zero => exact ⟨.rescan registered, rfl, last, .refl⟩
  | succ n ih =>
    rw [Hub.finish]
    rcases ha : h.advance with ⟨h₁, v₁⟩
    have hprog := Hub.advance_cases hr ha
    cases v₁ with
    | some v₁ =>
      have hstep : Step allowed ⟨h, .rescan registered :: calls, last⟩ _ :=
        .finish List.mem_cons_self hr ha
      rw [List.erase_cons_head] at hstep
      rw [Ends, if_neg hprog.verdict_ne_blocked]
      exact hstep.andThen .refl
    | none =>
      obtain ⟨stage₁, hr₁⟩ := hprog.goes_on hr
      exact (ih hr₁).of_steps (.tail .refl (.advance List.mem_cons_self hr ha))

theorem ends_rescan (h : Hub) (registered : Option Nat) :
    Ends allowed ⟨h, .refresh registered :: calls, last⟩ calls (h.refresh .caller).1
      (h.refresh .caller).2 := by
  rw [Hub.refresh]
  cases hb : h.begin? .caller with
  | none => exact ⟨.refresh registered, rfl, last, .refl⟩
  | some h₁ =>
    have hstep : Step allowed ⟨h, .refresh registered :: calls, last⟩ _ :=
      .begin List.mem_cons_self hb
    rw [List.erase_cons_head] at hstep
    obtain ⟨-, rfl⟩ := Hub.begin?_eq_some hb
    exact (ends_finish rfl).of_steps (.tail .refl hstep)

/-! ## The listener -/

theorem steps_enlist (hreg : σ.hub.registration = .absent) (hfree : σ.isRegistering = false)
    (hname : '\x00' ∉ σ.hub.config.workerName.toList) :
    Steps allowed σ ⟨σ.hub.enlist,
      (if σ.hub.config.refreshOnRegister then [.refresh (some σ.hub.nextWorker)] else []) ++
        σ.calls, σ.last⟩ := by
  have hlisten : Step allowed ⟨σ.hub.startWorker.2, .listen σ.hub.startWorker.1 :: σ.calls, σ.last⟩
      _ := .listen List.mem_cons_self
  rw [List.erase_cons_head] at hlisten
  have hactivate : Step allowed ⟨{ σ.hub.startWorker.2 with
      platform := (σ.hub.startWorker.2.platform.listen (.worker σ.hub.startWorker.1)).2 },
      .activate (σ.hub.startWorker.2.platform.listen (.worker σ.hub.startWorker.1)).1
        σ.hub.startWorker.1 :: σ.calls, σ.last⟩ _ := .activate List.mem_cons_self
  rw [List.erase_cons_head] at hactivate
  exact (Step.register hreg hfree hname).andThen (hlisten.andThen (hactivate.andThen .refl))

/-- Registering the listener on a hub that rescans then. -/
theorem ends_register (hreg : σ.hub.registration = .absent) (hfree : σ.isRegistering = false)
    (hname : '\x00' ∉ σ.hub.config.workerName.toList)
    (hconf : σ.hub.config.refreshOnRegister = true) (hfault : σ.hub.listenFault = none) :
    Ends allowed σ σ.calls σ.hub.register.1 σ.hub.register.2 := by
  have hsteps : Steps allowed σ _ := steps_enlist hreg hfree hname
  rw [hconf, if_pos rfl] at hsteps
  rw [Hub.register_eq hreg hname hfault, hconf, if_pos rfl]
  exact (ends_rescan ..).of_steps hsteps

/-- Stopping a worker. -/
theorem steps_stop (h : Hub) (calls : List Call) (last : Option Verdict) (w : Nat) :
    ∃ last', Steps allowed ⟨h, .stop w :: calls, last⟩
      ⟨(h.stopWorker w).1, .join w :: calls, last'⟩ := by
  have hstop : Step allowed ⟨h, .stop w :: calls, last⟩ _ := .stop List.mem_cons_self
  rw [List.erase_cons_head] at hstop
  obtain ⟨last', hsettle⟩ :=
    exists_steps_settle ⟨(h.askToQuit w).letGo, .join w :: calls, last⟩ w
  exact ⟨last', hstop.andThen (Step.release.andThen hsettle)⟩

/-- Unregistering the listener; its worker is still to end. -/
theorem steps_unregister {l w : Nat} (hreg : σ.hub.registration = .active l w)
    (hfree : σ.isRegistering = false) (hfault : σ.hub.unlistenFault = none) :
    ∃ last, Steps allowed σ ⟨σ.hub.unregister.1, .join w :: σ.calls, last⟩ := by
  obtain ⟨journal, hhub⟩ := Hub.unregister_eq hreg hfault
  rw [hhub]
  have hunlisten : Step allowed
      ⟨{ σ.hub with registration := .absent }, .unlisten l w :: σ.calls, σ.last⟩ _ :=
    .unlisten List.mem_cons_self
  rw [List.erase_cons_head] at hunlisten
  obtain ⟨last, hstop⟩ := steps_stop _ σ.calls σ.last w
  exact ⟨last, (Step.unregister hreg hfree).andThen
    (hunlisten.andThen (hstop.tail (.aside _ journal _)))⟩

end Session

/-! ## Rows of requests -/

/-- A request to a hub. -/
inductive Command where
  | attach (d : Descriptor)
  | change (d : Descriptor)
  | detach (device : Int32)
  | setAvailable (b : Bool)
  | refresh
  | register
  | unregister

/-- Whether a request attaches only what is `allowed`. -/
def Command.Meets (allowed : Descriptor → Prop) : Command → Prop
  | attach d | change d => allowed d
  | _ => True

/-- The hub after a request, with its worker waiting, held up or ended. -/
def Hub.perform (h : Hub) : Command → Hub
  | .attach d => h.attach d
  | .change d => h.change d
  | .detach device => h.detach device
  | .setAvailable b => { h with platform := h.platform.setAvailable b }
  | .refresh => (h.refresh .caller).1
  | .register => h.register.1
  | .unregister => h.unregister.1

namespace Session

variable {allowed : Descriptor → Prop}

/-- Registering, whatever the state of the listener. -/
theorem exists_steps_register {σ : Session} (hfree : σ.isRegistering = false)
    (hfault : σ.hub.listenFault = none) :
    ∃ τ, Steps allowed σ τ ∧ τ.hub = σ.hub.register.1 ∧ τ.isRegistering = false := by
  cases hreg : σ.hub.registration with
  | poisoned => exact ⟨σ, .refl, by simp [Hub.register, hreg], hfree⟩
  | active l w =>
    refine ⟨_, .tail .refl (.aside σ.hub.core (σ.hub.journal ++ [.alreadyRegistered])
      σ.hub.platform.sampling), ?_, hfree⟩
    simp [Hub.register, hreg, Hub.note]
  | absent =>
    by_cases hname : '\x00' ∈ σ.hub.config.workerName.toList
    · exact ⟨_, .tail .refl (.poison hreg hfree hname), by simp [Hub.register, hreg, hname], hfree⟩
    · cases hconf : σ.hub.config.refreshOnRegister with
      | true => exact (ends_register hreg hfree hname hconf hfault).exists_steps hfree
      | false =>
        have hsteps : Steps allowed σ _ := steps_enlist hreg hfree hname
        rw [hconf] at hsteps
        refine ⟨_, hsteps, ?_, hfree⟩
        rw [Hub.register_eq hreg hname hfault, hconf]
        rfl

/-- Every request is a row of steps. -/
theorem exists_steps_perform {σ : Session} (hfree : σ.isRegistering = false)
    (hlisten : σ.hub.listenFault = none) (hunlisten : σ.hub.unlistenFault = none) {c : Command}
    (hc : c.Meets allowed) :
    ∃ τ, Steps allowed σ τ ∧ τ.hub = σ.hub.perform c ∧ τ.isRegistering = false := by
  cases c with
  | attach d =>
    obtain ⟨last, hsteps⟩ := exists_steps_notify _ .added d.platformId
    exact ⟨_, (Step.attach d hc).andThen hsteps, rfl, hfree⟩
  | change d =>
    obtain ⟨last, hsteps⟩ := exists_steps_notify _ .changed d.platformId
    exact ⟨_, (Step.change d hc).andThen hsteps, rfl, hfree⟩
  | detach device =>
    rw [Hub.perform, Hub.detach]
    split
    · rename_i hin
      obtain ⟨last, hsteps⟩ := exists_steps_notify _ .removed device
      exact ⟨_, (Step.detach device hin).andThen hsteps, rfl, hfree⟩
    · exact ⟨σ, .refl, rfl, hfree⟩
  | setAvailable b => exact ⟨_, .tail .refl (.setAvailable b), rfl, hfree⟩
  | refresh => exact ((ends_rescan ..).of_steps (.tail .refl .refresh)).exists_steps hfree
  | register => exact exists_steps_register hfree hlisten
  | unregister =>
    cases hreg : σ.hub.registration with
    | active l w =>
      obtain ⟨last, hsteps⟩ := steps_unregister hreg hfree hunlisten
      exact ⟨_, hsteps, rfl, hfree⟩
    | absent | poisoned => exact ⟨σ, .refl, by simp [Hub.perform, Hub.unregister, hreg], hfree⟩

/-- Every hub that requests lead to, one after the other, is that of a session. -/
theorem exists_steps_performAll (config : Config) (core : Core) {cs : List Command}
    (hcs : ∀ c ∈ cs, c.Meets allowed) : ∃ τ, Steps allowed (start config core) τ ∧
      τ.hub = cs.foldl Hub.perform (.create config core) ∧ τ.isRegistering = false := by
  induction cs using List.reverseRecOn with
  | nil => exact ⟨_, .refl, rfl, rfl⟩
  | append_singleton cs c ih =>
    obtain ⟨τ, hrun, hhub, hfree⟩ := ih fun c' hc' => hcs c' (List.mem_append_left _ hc')
    have hsame := hrun.settings
    obtain ⟨υ, hstep, hnext, hfree'⟩ := exists_steps_perform hfree hsame.listenFault
      hsame.unlistenFault (hcs c (by simp))
    exact ⟨υ, hrun.trans hstep, by simp [hnext, hhub], hfree'⟩

end Session

end InputHub
