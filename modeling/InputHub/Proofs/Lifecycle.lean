import InputHub.Proofs.Ending
import InputHub.Proofs.Schedules

/-!
# The life of a listener

Whether the listener is registered shows in three places: in the hub, among the listeners of the
platform, and in the worker that goes on. They are written at different moments, with errors in
between, while other parties start and stop listening to the same platform. Between any two calls
they agree all the same.

`Scene.act` is all that can come between: calls to the hub, its worker's steps, others that listen
and stop listening under the numbers they were given, devices that come and go, and a platform that
goes away and comes back.

* `Hub.register_cases` says all that registering can do;
* `Hub.Orderly` is what every act keeps (`Scene.orderly_act`);
* `Scene.outsider_act`: no act takes somebody else's listener away but their own;
* `Scene.snapshot_act`: while the listener is not registered, only a call for a rescan changes the
  registry;
* `Scene.listener_lifecycle` has all of this for every row of acts.
-/

namespace InputHub

namespace Hub

variable {config : Config} {given : List Nat} {h h' : Hub} {id : Nat}

/-! ## Whole rescans -/

/-- The hub after a rescan that nothing stood in the way of. -/
def rescanned (h : Hub) (party : Party) : Hub :=
  let found := h.platform.devices.values
  let next := h.snapshot.rebuild found
  { h with
    platform := { h.platform with enumerations := h.platform.enumerations + 1 }
    snapshot := next
    core := h.core.record (.devicesChanged next party)
    published := next.generation
    publications := h.publications + 1
    journal := h.journal ++ h.snapshot.rebuildNotices found }

/-- A rescan whose turn it is and whose core returns succeeds, unless the platform is away. -/
theorem refresh_eq (hfree : h.rescan = none) (hc : h.core.Returns) (party : Party) :
    h.refresh party = if h.platform.available then (h.rescanned party, .done)
      else (h, .failed MemoryPlatform.offline) := by
  cases h with
  | mk config platform listenFault unlistenFault core snapshot published publications rescan =>
    dsimp only at hfree hc ⊢
    subst hfree
    split
    · rename_i havail
      have hrecord := hc.record (.devicesChanged (snapshot.rebuild platform.devices.values) party)
      simp [refresh, begin?, stages, finish, advance, MemoryPlatform.enumerate, havail, note,
        hrecord.1, hrecord.2, rescanned]
    · rename_i havail
      simp [refresh, begin?, stages, finish, advance, MemoryPlatform.enumerate, havail]

theorem refresh_of_busy {r : Rescan} (hr : h.rescan = some r) (party : Party) :
    h.refresh party = (h, .blocked) := by
  simp [refresh, begin?, hr]

/-- All that registering the listener can do, with its verdict. -/
inductive Registering (h : Hub) : Hub → Verdict → Prop
  | poisoned : h.registration = .poisoned → Registering h h (.failed poisonedRegistration)
  | already {l w : Nat} : h.registration = .active l w →
      Registering h (h.note [.alreadyRegistered]) .done
  | unnameable : h.registration = .absent →
      Registering h { h with registration := .poisoned } .broken
  | quiet : h.registration = .absent → h.config.refreshOnRegister = false →
      Registering h h.enlist .done
  | refused : h.registration = .absent → h.config.refreshOnRegister = true →
      h.platform.available = false → Registering h h.enlist (.failed MemoryPlatform.offline)
  | rescans : h.registration = .absent → h.config.refreshOnRegister = true →
      h.platform.available = true → Registering h (h.enlist.rescanned .caller) .done

theorem register_cases (hfault : h.listenFault = none) (hc : h.core.Returns)
    (hfree : h.registration = .absent → h.rescan = none) :
    Registering h h.register.1 h.register.2 := by
  cases hreg : h.registration with
  | poisoned =>
    rw [register, hreg]
    exact .poisoned hreg
  | active l w =>
    rw [register, hreg]
    exact .already hreg
  | absent =>
    by_cases hname : '\x00' ∈ h.config.workerName.toList
    · have hbroken : h.register = ({ h with registration := .poisoned }, .broken) := by
        simp [register, hreg, hname]
      rw [hbroken]
      exact .unnameable hreg
    · rw [register_eq hreg hname hfault]
      cases hconf : h.config.refreshOnRegister with
      | false => exact .quiet hreg hconf
      | true =>
        rw [if_pos rfl, refresh_eq (h := h.enlist) (hfree hreg) hc]
        cases havail : h.platform.available with
        | false =>
          rw [if_neg (show ¬h.enlist.platform.available = true from Bool.eq_false_iff.1 havail)]
          exact .refused hreg hconf havail
        | true =>
          rw [if_pos (show h.enlist.platform.available = true from havail)]
          exact .rescans hreg hconf havail

/-! ## Hubs in order -/

theorem listeners_unlisten (p : MemoryPlatform Subscriber) (n m : Nat) :
    (p.unlisten n).listeners[m]? = if n = m then none else p.listeners[m]? := by
  simp [MemoryPlatform.unlisten, Std.TreeMap.getElem?_erase]

theorem listeners_listen (p : MemoryPlatform Subscriber) (l : Subscriber) (n : Nat) :
    (p.listen l).2.listeners[n]? = if p.nextListener = n then some l else p.listeners[n]? := by
  simp [MemoryPlatform.listen, Std.TreeMap.getElem?_insert]

theorem listeners_enlist (h : Hub) (n : Nat) : h.enlist.platform.listeners[n]? =
    if h.platform.nextListener = n then some (.worker h.nextWorker)
      else h.platform.listeners[n]? :=
  listeners_listen ..

theorem workers_enlist (h : Hub) (i : Nat) :
    h.enlist.workers[i]? = if h.nextWorker = i then some .fresh else h.workers[i]? :=
  workers_setWorker ..

theorem owned?_enlist (h : Hub) :
    h.enlist.registration.owned? = some (h.platform.nextListener, h.nextWorker) := rfl

/-- What a message to any worker keeps is kept when all listeners are told of a change. -/
theorem tellAll_induction {P : Hub → Prop} {change : Change} {device : Int32}
    (hkeep : ∀ {h : Hub} {id : Nat}, P h → P (h.post id change device)) {h : Hub} (hp : P h) :
    P (h.tellAll change device) := by
  unfold tellAll
  generalize h.platform.listeners.values = ls
  induction ls generalizing h with
  | nil => exact hp
  | cons l ls ih =>
    cases l with
    | worker id => exact ih (hkeep hp)
    | outsider => exact ih hp

/-- A hub whose three traces of the listener agree, with the numbers that other parties were given
to listen to its platform. While the listener is registered, its worker is listed by the platform
and goes on, and no other is and does. The number under which it is listed was given to nobody else,
and it has not been asked to quit. -/
structure Orderly (config : Config) (given : List Nat) (h : Hub) : Prop extends h.Steady where
  config_eq : h.config = config
  listens : h.listenFault = none
  unlistens : h.unlistenFault = none
  ours {n w : Nat} : h.platform.listeners[n]? = some (.worker w) ↔
    h.registration.owned? = some (n, w)
  listed {n : Nat} {l : Subscriber} : h.platform.listeners[n]? = some l →
    n < h.platform.nextListener
  given_lt {n : Nat} : n ∈ given → n < h.platform.nextListener
  foreign {n w : Nat} : h.registration.owned? = some (n, w) → n ∉ given
  working {w : Nat} : h.isWorking w = true ↔ ∃ n, h.registration.owned? = some (n, w)
  unasked {i : Nat} {w : Worker} : h.workers[i]? = some w → w.isAlive = true → .quit ∉ w.queue

theorem isRegistered_iff : h.isRegistered = true ↔ ∃ p, h.registration.owned? = some p := by
  unfold isRegistered
  cases h.registration <;> simp [Registration.owned?]

theorem owned?_of_not_isRegistered (hreg : h.isRegistered = false) :
    h.registration.owned? = none := by
  rw [Option.eq_none_iff_forall_ne_some]
  intro p hp
  rw [isRegistered_iff.2 ⟨p, hp⟩] at hreg
  cases hreg

theorem orderly_create (config : Config) {core : Core} (hcore : core.Returns) :
    (create config core).Orderly config [] where
  numbered hw := by simp [create] at hw
  rescanning hr := by simp [create] at hr
  returns := hcore
  busy hr := by simp [create] at hr
  config_eq := rfl
  listens := rfl
  unlistens := rfl
  ours := by simp [create, MemoryPlatform.empty, Registration.owned?]
  listed hl := by simp [create, MemoryPlatform.empty] at hl
  given_lt hn := nomatch hn
  foreign hp := by simp [create, Registration.owned?] at hp
  working := by simp [create, isWorking, Registration.owned?]
  unasked hw := by simp [create] at hw

/-- A hub after the listener was unregistered that the platform had under a number. -/
structure Unlisted (l : Nat) (h h' : Hub) : Prop extends h'.Steady, SameSettings h h' where
  registration : h'.registration = .absent
  listeners (n : Nat) :
    h'.platform.listeners[n]? = if l = n then none else h.platform.listeners[n]?
  nextListener : h'.platform.nextListener = h.platform.nextListener
  idle (i : Nat) : h'.isWorking i = false

namespace Orderly

/-- A hub with the same wiring in which the same workers go on. -/
theorem of_wiring (ho : h.Orderly config given) (hwire : SameWiring h h') (hs : h'.Steady)
    (hworking : ∀ i, h'.isWorking i = h.isWorking i)
    (hunasked : ∀ {i : Nat} {w : Worker}, h'.workers[i]? = some w → w.isAlive = true →
      .quit ∉ w.queue) :
    h'.Orderly config given where
  toSteady := hs
  config_eq := hwire.config.trans ho.config_eq
  listens := hwire.listenFault.trans ho.listens
  unlistens := hwire.unlistenFault.trans ho.unlistens
  ours := by
    rw [hwire.listeners, hwire.registration]
    exact ho.ours
  listed hl := by
    rw [hwire.listeners] at hl
    rw [hwire.nextListener]
    exact ho.listed hl
  given_lt hn := by
    rw [hwire.nextListener]
    exact ho.given_lt hn
  foreign hp := ho.foreign (hwire.registration ▸ hp)
  working {w} := by
    rw [hworking w, hwire.registration]
    exact ho.working
  unasked := hunasked

/-- While the listener is not registered, no worker goes on. -/
theorem isWorking_eq_false (ho : h.Orderly config given) (hreg : h.registration.owned? = none)
    (i : Nat) : h.isWorking i = false := by
  by_contra hwork
  obtain ⟨n, hp⟩ := ho.working.1 (Bool.not_eq_false _ ▸ hwork)
  rw [hreg] at hp
  cases hp

/-- Only the registered worker can have a rescan under way. -/
theorem alone (ho : h.Orderly config given) {l w : Nat}
    (hreg : h.registration.owned? = some (l, w)) : h.Alone w := by
  intro party stage hr
  obtain ⟨⟨i, rfl⟩, -⟩ := ho.busy hr
  obtain ⟨n, hp⟩ := ho.working.1 (ho.isWorking_of_rescan hr)
  rw [hreg, Option.some.injEq, Prod.mk.injEq] at hp
  rw [hp.2]

theorem rescan_eq_none (ho : h.Orderly config given) (hreg : h.registration.owned? = none) :
    h.rescan = none := by
  cases hr : h.rescan with
  | none => rfl
  | some r =>
    obtain ⟨party, stage⟩ := r
    obtain ⟨⟨i, rfl⟩, -⟩ := ho.busy hr
    have hwork := ho.isWorking_of_rescan hr
    rw [ho.isWorking_eq_false hreg] at hwork
    cases hwork

/-! ## Steps of workers and messages to them -/

theorem mailed (ho : h.Orderly config given) {change : Change} {device : Int32}
    (hm : Mailed h id (.rescan change device) h') : h'.Orderly config given := by
  have hworker {i : Nat} : h'.workers[i]? = (h.workers[i]?).map fun w =>
      if i = id ∧ w.isAlive = true then w.post (.rescan change device) else w := by
    by_cases hi : i = id
    · subst hi
      simp [hm.worker]
    · simp [hm.others hi, hi]
  refine ho.of_wiring (.mailed hm) (ho.toSteady.mailed hm) (fun i => ?_) fun {i w'} hw' halive => ?_
  · rw [isWorking, isWorking, hworker, Option.any_map]
    congr 1
    funext w
    split <;> rfl
  · rw [hworker] at hw'
    obtain ⟨w, hw, rfl⟩ := Option.map_eq_some_iff.1 hw'
    split
    · rename_i hpost
      have hquit := ho.unasked hw hpost.2
      simp [Worker.post, hquit]
    · rename_i hpost
      rw [if_neg hpost] at halive
      exact ho.unasked hw halive

theorem workerStep? (ho : h.Orderly config given) (hstep : h.workerStep? id = some h') :
    h'.Orderly config given := by
  obtain ⟨w, w', hw, hw', halive, hcases⟩ := ho.worker_cases hstep
  have hothers {i : Nat} (hi : i ≠ id) : h'.workers[i]? = h.workers[i]? :=
    (WorkedBy.workerStep? hstep).others hi
  have hquit := ho.unasked hw halive
  -- The worker was not asked to quit, so it goes on, with some of its messages taken.
  have hgoes : w'.isAlive = true ∧ .quit ∉ w'.queue := by
    rcases hcases with hmove | ⟨hpos, rfl | rfl⟩
    · cases hmove with
      | takes hqueue =>
        rw [hqueue] at hquit
        exact ⟨rfl, fun hin => hquit (List.mem_cons_of_mem _ hin)⟩
      | starts => exact ⟨rfl, nofun⟩
      | quits hqueue => simp [hqueue] at hquit
    · exact ⟨halive, hquit⟩
    · exact ⟨rfl, hquit⟩
  refine ho.of_wiring (.workerStep? hstep) (ho.toSteady.workerStep? hstep) (fun i => ?_)
    fun {i u} hu hlive => ?_
  · by_cases hi : i = id
    · subst hi
      simp [isWorking, hw, hw', halive, hgoes.1]
    · rw [isWorking, isWorking, hothers hi]
  · by_cases hi : i = id
    · subst hi
      obtain rfl := Option.some.inj (hw'.symm.trans hu)
      exact hgoes.2
    · exact ho.unasked ((hothers hi).symm.trans hu) hlive

theorem rescanned (ho : h.Orderly config given) (party : Party) :
    (h.rescanned party).Orderly config given := by
  refine ho.of_wiring ⟨⟨rfl, rfl, rfl⟩, rfl, rfl, rfl, rfl⟩ ?_ (fun _ => rfl) ho.unasked
  exact ⟨ho.toManned.congr rfl rfl rfl, ho.returns.record _, ho.busy⟩

/-! ## Calls -/

theorem note (ho : h.Orderly config given) (ns : List Notice) :
    (h.note ns).Orderly config given :=
  ho.of_wiring ⟨⟨rfl, rfl, rfl⟩, rfl, rfl, rfl, rfl⟩ (ho.toSteady.congr rfl rfl rfl rfl)
    (fun _ => rfl) ho.unasked

theorem platform (ho : h.Orderly config given) {p : MemoryPlatform Subscriber}
    (hl : p.listeners = h.platform.listeners) (hn : p.nextListener = h.platform.nextListener) :
    { h with platform := p }.Orderly config given :=
  ho.of_wiring ⟨⟨rfl, rfl, rfl⟩, rfl, hl, hn, rfl⟩ (ho.toSteady.congr rfl rfl rfl rfl)
    (fun _ => rfl) ho.unasked

theorem enlist (ho : h.Orderly config given) (hreg : h.registration = .absent) :
    h.enlist.Orderly config given where
  toSteady := ⟨ho.toManned.startWorker.congr rfl rfl rfl, ho.returns, ho.busy⟩
  config_eq := ho.config_eq
  listens := ho.listens
  unlistens := ho.unlistens
  ours {n w} := by
    have hnone : h.registration.owned? = none := congrArg Registration.owned? hreg
    rw [listeners_enlist, owned?_enlist, Option.some.injEq, Prod.mk.injEq]
    split
    · rename_i hn
      simp [hn]
    · rename_i hn
      simp [ho.ours, hnone, hn]
  listed {n l} hl := by
    show n < h.platform.nextListener + 1
    rw [listeners_enlist] at hl
    split at hl
    · omega
    · exact Nat.lt_succ_of_lt (ho.listed hl)
  given_lt hn := Nat.lt_succ_of_lt (ho.given_lt hn)
  foreign {n w} hp hn := by
    rw [owned?_enlist, Option.some.injEq, Prod.mk.injEq] at hp
    have hlt := ho.given_lt hn
    omega
  working {w} := by
    rw [isWorking, workers_enlist, owned?_enlist]
    split
    · rename_i hw
      simp [hw, Worker.fresh, Worker.isAlive]
    · rename_i hw
      have hgone := ho.isWorking_eq_false (congrArg Registration.owned? hreg) w
      rw [isWorking] at hgone
      simp [hgone, hw]
  unasked {i w} hw halive := by
    rw [workers_enlist] at hw
    split at hw
    · obtain rfl := Option.some.inj hw
      exact List.not_mem_nil
    · exact ho.unasked hw halive

/-- All that registering can do to a hub that is in order. -/
theorem registering (ho : h.Orderly config given) : Registering h h.register.1 h.register.2 :=
  register_cases ho.listens ho.returns fun hreg =>
    ho.rescan_eq_none (congrArg Registration.owned? hreg)

theorem register (ho : h.Orderly config given) : h.register.1.Orderly config given := by
  have hcases := ho.registering
  generalize h.register.1 = h' at hcases
  generalize h.register.2 = v at hcases
  cases hcases with
  | poisoned => exact ho
  | already => exact ho.note _
  | unnameable hreg =>
    have hnone : h.registration.owned? = none := congrArg Registration.owned? hreg
    exact
      { ho with
        toSteady := ho.toSteady.congr rfl rfl rfl rfl
        ours := ho.ours.trans (by rw [hnone]; rfl)
        foreign := nofun
        working := ho.working.trans (by rw [hnone]; rfl) }
  | quiet hreg | refused hreg => exact ho.enlist hreg
  | rescans hreg => exact (ho.enlist hreg).rescanned .caller

/-- The worker has ended after the listener was unregistered, and the platform has dropped it. -/
theorem unlisted (ho : h.Orderly config given) {l w : Nat} (hreg : h.registration = .active l w) :
    Unlisted l h h.unregister.1 := by
  have howned : h.registration.owned? = some (l, w) := congrArg Registration.owned? hreg
  have hsteady : { h with
      registration := .absent, platform := h.platform.unlisten l }.Steady :=
    ho.toSteady.congr rfl rfl rfl rfl
  obtain ⟨hstopped, hkept, hend⟩ := hsteady.stopWorker (ho.alone howned)
  obtain ⟨journal, hunreg⟩ := unregister_eq hreg ho.unlistens
  rw [hunreg]
  exact
    { toSteady := hstopped.congr rfl rfl rfl rfl
      toSameSettings := ⟨hkept.config, hkept.listenFault, hkept.unlistenFault⟩
      registration := hkept.registration
      listeners := fun n => by
        refine (congrArg (fun ls => ls[n]?) hkept.listeners).trans ?_
        exact listeners_unlisten ..
      nextListener := hkept.nextListener
      idle := fun i => by
        by_cases hi : i = w
        · exact hi ▸ hend
        · refine (congrArg (fun w => w.any Worker.isAlive) (hkept.others hi)).trans ?_
          by_contra hwork
          obtain ⟨n, hp⟩ := ho.working.1 (Bool.not_eq_false _ ▸ hwork)
          rw [howned, Option.some.injEq, Prod.mk.injEq] at hp
          exact hi hp.2.symm }

theorem unregister (ho : h.Orderly config given) {l w : Nat} (hreg : h.registration = .active l w) :
    h.unregister.1.Orderly config given := by
  have howned : h.registration.owned? = some (l, w) := congrArg Registration.owned? hreg
  have hu := ho.unlisted hreg
  generalize h.unregister.1 = h' at hu
  have hnone : h'.registration.owned? = none := congrArg Registration.owned? hu.registration
  exact
    { toSteady := hu.toSteady
      config_eq := hu.config.trans ho.config_eq
      listens := hu.listenFault.trans ho.listens
      unlistens := hu.unlistenFault.trans ho.unlistens
      ours := fun {n v} => by
        rw [hu.listeners, hnone]
        split
        · simp
        · rename_i hn
          simp [ho.ours, howned, hn]
      listed := fun {n s} hl => by
        rw [hu.listeners] at hl
        rw [hu.nextListener]
        split at hl
        · cases hl
        · exact ho.listed hl
      given_lt := fun hn => hu.nextListener ▸ ho.given_lt hn
      foreign := fun hp => nomatch hnone.symm.trans hp
      working := fun {v} => by simp [hu.idle, hnone]
      unasked := fun {i u} hw halive => by
        have hwork := isWorking_iff.2 ⟨u, hw, halive⟩
        rw [hu.idle] at hwork
        cases hwork }

/-- Somebody else listens to the platform, under a number that is theirs from then on. -/
theorem listen (ho : h.Orderly config given) :
    { h with platform := (h.platform.listen .outsider).2 }.Orderly config
      (h.platform.nextListener :: given) :=
  { ho with
    toSteady := ho.toSteady.congr rfl rfl rfl rfl
    ours := fun {m w} => by
      rw [listeners_listen]
      split
      · rename_i hm
        have hours : h.registration.owned? ≠ some (m, w) := fun hp =>
          absurd (ho.listed (ho.ours.2 hp)) (by omega)
        simp [hours]
      · exact ho.ours
    listed := fun {m l} hl => by
      show m < h.platform.nextListener + 1
      rw [listeners_listen] at hl
      split at hl
      · omega
      · exact Nat.lt_succ_of_lt (ho.listed hl)
    given_lt := fun {m} hm => by
      show m < h.platform.nextListener + 1
      rcases List.mem_cons.1 hm with rfl | hm
      · omega
      · exact Nat.lt_succ_of_lt (ho.given_lt hm)
    foreign := fun {m w} hp hm => by
      rcases List.mem_cons.1 hm with rfl | hm
      · exact absurd (ho.listed (ho.ours.2 hp)) (Nat.lt_irrefl _)
      · exact ho.foreign hp hm }

/-- Somebody else stops listening, under a number that they were given. -/
theorem unlisten (ho : h.Orderly config given) {n : Nat} (hn : n ∈ given) :
    { h with platform := h.platform.unlisten n }.Orderly config given :=
  { ho with
    toSteady := ho.toSteady.congr rfl rfl rfl rfl
    ours := fun {m w} => by
      rw [listeners_unlisten]
      split
      · rename_i hm
        -- The number of the hub's own listener was not given to anybody else.
        have hours : h.registration.owned? ≠ some (m, w) := fun hp => ho.foreign hp (hm ▸ hn)
        simp [hours]
      · exact ho.ours
    listed := fun {m l} hl => by
      rw [listeners_unlisten] at hl
      split at hl
      · cases hl
      · exact ho.listed hl }

theorem tellAll (ho : h.Orderly config given) (change : Change) (device : Int32) :
    (h.tellAll change device).Orderly config given :=
  tellAll_induction (fun ho => ho.mailed (mailed_post ..)) ho

theorem settleWorker (ho : h.Orderly config given) : h.settleWorker.Orderly config given := by
  unfold Hub.settleWorker settle
  split
  · split
    · exact ho
    · exact runWorker_induction Orderly.workerStep? ho _
  · exact ho

/-- A call for a rescan leaves the hub as it is, or rescans. -/
theorem refresh_cases (ho : h.Orderly config given) (party : Party) :
    (h.refresh party).1 = h ∨ (h.refresh party).1 = h.rescanned party := by
  cases hr : h.rescan with
  | some r => exact .inl (by rw [refresh_of_busy hr])
  | none =>
    rw [refresh_eq hr ho.returns]
    split
    · exact .inr rfl
    · exact .inl rfl

/-- The listener is registered if and only if exactly one listener of the platform is the hub's, and
if and only if exactly one worker goes on. -/
theorem registered_iff (ho : h.Orderly config given) :
    (h.isRegistered = true ↔
      ∃! n : Nat, ∃ w, h.platform.listeners[n]? = some (.worker w)) ∧
    (h.isRegistered = true ↔ ∃! w, h.isWorking w = true) := by
  rw [isRegistered_iff]
  refine ⟨⟨fun ⟨⟨l, w⟩, hp⟩ => ?_, fun ⟨l, ⟨w, hl⟩, _⟩ => ⟨(l, w), ho.ours.1 hl⟩⟩,
    fun ⟨⟨l, w⟩, hp⟩ => ?_, fun ⟨w, hw, _⟩ => ?_⟩
  · refine ⟨l, ⟨w, ho.ours.2 hp⟩, fun n ⟨v, hn⟩ => ?_⟩
    have hsame := hp.symm.trans (ho.ours.1 hn)
    simp only [Option.some.injEq, Prod.mk.injEq] at hsame
    exact hsame.1.symm
  · refine ⟨w, ho.working.2 ⟨l, hp⟩, fun v hv => ?_⟩
    obtain ⟨n, hn⟩ := ho.working.1 hv
    have hsame := hp.symm.trans hn
    simp only [Option.some.injEq, Prod.mk.injEq] at hsame
    exact hsame.2.symm
  · obtain ⟨n, hn⟩ := ho.working.1 hw
    exact ⟨(n, w), hn⟩

end Orderly

/-- Unregistering and giving the hub up do nothing unless the listener is registered. -/
theorem unregister_cases (h : Hub) :
    (h.isRegistered = false ∧ h.unregister.1 = h ∧ h.close = h) ∨
    (∃ l w, h.registration = .active l w) ∧ h.close = h.unregister.1 := by
  cases hreg : h.registration with
  | active l w => exact .inr ⟨⟨l, w, rfl⟩, by simp [close, hreg]⟩
  | absent | poisoned => exact .inl (by simp [isRegistered, unregister, close, hreg])

/-- After unregistering, and after the hub was given up, the listener is not registered. -/
theorem Orderly.isRegistered_unregister (ho : h.Orderly config given) :
    h.unregister.1.isRegistered = false ∧ h.close.isRegistered = false := by
  rcases unregister_cases h with ⟨hreg, hsame, hclose⟩ | ⟨⟨l, w, hreg⟩, hclose⟩
  · rw [hsame, hclose]
    exact ⟨hreg, hreg⟩
  · have hgone : h.unregister.1.isRegistered = false := by
      rw [isRegistered, (ho.unlisted hreg).registration]
    rw [hclose]
    exact ⟨hgone, hgone⟩

/-! ## Initial rescans -/

/-- A request made the platform list its devices, or was refused to. -/
def Attempted (h : Hub) (r : Hub × Verdict) : Prop :=
  r.1.platform.enumerations = h.platform.enumerations + 1 ∨
    r.2 = .failed MemoryPlatform.offline

/-- Registering rescans if and only if the listener was not registered before and is registered now,
and the hub is set so. The listener is registered then even if the platform refused, which is what
the caller is told. -/
theorem Orderly.attempted_register (ho : h.Orderly config given) :
    (h.Attempted h.register ↔ (h.isRegistered = false ∧ h.register.1.isRegistered = true) ∧
      config.refreshOnRegister = true) ∧
    (¬h.Attempted h.register → h.register.1.snapshot = h.snapshot) ∧
    (h.Attempted h.register → h.register.1.isRegistered = true ∧
      (h.platform.available = true → h.register.2 = .done ∧
        h.register.1.snapshot = h.snapshot.rebuild h.platform.devices.values) ∧
      (h.platform.available = false → h.register.2 = .failed MemoryPlatform.offline ∧
        h.register.1.snapshot = h.snapshot)) := by
  have hcases := ho.registering
  rw [← ho.config_eq]
  generalize h.register = r at hcases
  obtain ⟨h', v⟩ := r
  dsimp only at hcases ⊢
  have hlisted : h.enlist.platform.enumerations = h.platform.enumerations := rfl
  have hsnapshot : h.enlist.snapshot = h.snapshot := rfl
  have hregistered : h.enlist.isRegistered = true := rfl
  cases hcases with
  | poisoned hreg =>
    simp [Attempted, isRegistered, hreg, poisonedRegistration, MemoryPlatform.offline]
  | already hreg => simp [Attempted, isRegistered, hreg, Hub.note]
  | unnameable hreg => simp [Attempted, isRegistered, hreg]
  | quiet _ hconf => simp [Attempted, hconf, hlisted, hsnapshot]
  | refused hreg hconf havail =>
    have hbefore : h.isRegistered = false := by simp [isRegistered, hreg]
    simp [Attempted, hconf, havail, hbefore, hregistered, hsnapshot]
  | rescans hreg hconf havail =>
    have hbefore : h.isRegistered = false := by simp [isRegistered, hreg]
    have hafter : (h.enlist.rescanned .caller).isRegistered = true := rfl
    have hattempt : h.Attempted (h.enlist.rescanned .caller, .done) := .inl rfl
    refine ⟨⟨fun _ => ⟨⟨hbefore, hafter⟩, hconf⟩, fun _ => hattempt⟩,
      fun hnot => absurd hattempt hnot, fun _ => ⟨hafter, fun _ => ⟨rfl, rfl⟩, fun haway => ?_⟩⟩
    rw [havail] at haway
    cases haway

end Hub

/-! ## Acts -/

/-- A hub, with the numbers that other parties were given to listen to its platform. -/
structure Scene where
  hub : Hub
  given : List Nat

/-- A call to the hub, or what can come between two calls. -/
inductive Act where
  | register
  | unregister
  /-- The hub is given up. -/
  | close
  | refresh
  /-- Somebody else listens to the platform. -/
  | listen
  /-- Somebody else stops listening, under a number that they were given. -/
  | unlisten (n : Nat)
  | setAvailable (b : Bool)
  | attach (d : Descriptor)
  | change (d : Descriptor)
  | detach (device : Int32)
  /-- A worker makes a step, if it can. -/
  | work (id : Nat)
  /-- The registered worker goes on until it waits. -/
  | settle

/-- Whether an act is about who listens to the platform. -/
def Act.isListening : Act → Bool
  | register | unregister | close | listen | unlisten _ => true
  | _ => false

namespace Scene

open Hub

/-- A hub that was just created, to whose platform nobody listens. -/
def start (config : Config) (core : Core) : Scene := ⟨.create config core, []⟩

/-- The scene after an act. Listeners are told of a device at once; the worker gets to it by steps
of its own. -/
def act (σ : Scene) : Act → Scene
  | .register => { σ with hub := σ.hub.register.1 }
  | .unregister => { σ with hub := σ.hub.unregister.1 }
  | .close => { σ with hub := σ.hub.close }
  | .refresh => { σ with hub := (σ.hub.refresh .caller).1 }
  | .listen =>
    let (n, platform) := σ.hub.platform.listen .outsider
    ⟨{ σ.hub with platform }, n :: σ.given⟩
  | .unlisten n =>
    if n ∈ σ.given then { σ with hub := { σ.hub with platform := σ.hub.platform.unlisten n } }
    else σ
  | .setAvailable b =>
    { σ with hub := { σ.hub with platform := σ.hub.platform.setAvailable b } }
  | .attach d =>
    { σ with
      hub := { σ.hub with platform := σ.hub.platform.put d }.tellAll .added d.platformId }
  | .change d =>
    { σ with
      hub := { σ.hub with platform := σ.hub.platform.put d }.tellAll .changed d.platformId }
  | .detach device =>
    if σ.hub.platform.devices.contains device then
      { σ with
        hub := { σ.hub with platform := σ.hub.platform.remove device }.tellAll .removed device }
    else σ
  | .work id => { σ with hub := (σ.hub.workerStep? id).getD σ.hub }
  | .settle => { σ with hub := σ.hub.settleWorker }

/-- The scene after a row of acts. -/
def play (σ : Scene) (acts : List Act) : Scene := acts.foldl act σ

variable {config : Config} {σ : Scene}

/-- Every act leaves the hub in order. -/
theorem orderly_act (ho : σ.hub.Orderly config σ.given) (a : Act) :
    (σ.act a).hub.Orderly config (σ.act a).given := by
  have hunregister : σ.hub.unregister.1.Orderly config σ.given ∧
      σ.hub.close.Orderly config σ.given := by
    rcases unregister_cases σ.hub with ⟨-, hsame, hclose⟩ | ⟨⟨l, w, hreg⟩, hclose⟩
    · rw [hsame, hclose]
      exact ⟨ho, ho⟩
    · rw [hclose]
      exact ⟨ho.unregister hreg, ho.unregister hreg⟩
  cases a with
  | register => exact ho.register
  | unregister => exact hunregister.1
  | close => exact hunregister.2
  | refresh =>
    rw [act]
    rcases ho.refresh_cases .caller with he | he
    · rw [he]
      exact ho
    · rw [he]
      exact ho.rescanned .caller
  | listen => exact ho.listen
  | unlisten n =>
    rw [act]
    split
    · exact ho.unlisten ‹_›
    · exact ho
  | setAvailable b => exact ho.platform (p := σ.hub.platform.setAvailable b) rfl rfl
  | attach d => exact (ho.platform (p := σ.hub.platform.put d) rfl rfl).tellAll ..
  | change d => exact (ho.platform (p := σ.hub.platform.put d) rfl rfl).tellAll ..
  | detach device =>
    rw [act]
    split
    · exact (ho.platform (p := σ.hub.platform.remove device) rfl rfl).tellAll ..
    · exact ho
  | work id =>
    rw [act]
    cases hstep : σ.hub.workerStep? id with
    | none => exact ho
    | some h' => exact ho.workerStep? hstep
  | settle => exact ho.settleWorker

theorem orderly_play (ho : σ.hub.Orderly config σ.given) (acts : List Act) :
    (σ.play acts).hub.Orderly config (σ.play acts).given := by
  induction acts generalizing σ with
  | nil => exact ho
  | cons a acts ih => exact ih (orderly_act ho a)

/-- Who listens to the platform, and whether the hub is registered, is changed only by acts that are
about it. -/
theorem sameWiring_act (ho : σ.hub.Orderly config σ.given) {a : Act}
    (ha : a.isListening = false) : SameWiring σ.hub (σ.act a).hub := by
  have htell (p : MemoryPlatform Subscriber) (hl : p.listeners = σ.hub.platform.listeners)
      (hn : p.nextListener = σ.hub.platform.nextListener) (c : Change) (device : Int32) :
      SameWiring σ.hub ({ σ.hub with platform := p }.tellAll c device) :=
    tellAll_induction (P := SameWiring σ.hub) (fun hsame => hsame.trans (.mailed (mailed_post ..)))
      ⟨⟨rfl, rfl, rfl⟩, rfl, hl, hn, rfl⟩
  cases a with
  | register | unregister | close | listen | unlisten => cases ha
  | refresh =>
    rw [act]
    rcases ho.refresh_cases .caller with he | he
    · rw [he]
      exact .refl _
    · rw [he]
      exact ⟨⟨rfl, rfl, rfl⟩, rfl, rfl, rfl, rfl⟩
  | setAvailable b => exact ⟨⟨rfl, rfl, rfl⟩, rfl, rfl, rfl, rfl⟩
  | attach d => exact htell (σ.hub.platform.put d) rfl rfl ..
  | change d => exact htell (σ.hub.platform.put d) rfl rfl ..
  | detach device =>
    rw [act]
    split
    · exact htell (σ.hub.platform.remove device) rfl rfl ..
    · exact .refl _
  | work id =>
    rw [act]
    cases hstep : σ.hub.workerStep? id with
    | none => exact .refl _
    | some h' => exact .workerStep? hstep
  | settle =>
    rw [act, settleWorker]
    split
    · rw [settle]
      split
      · exact .refl _
      · exact (WorkedBy.runWorker ..).toSameWiring
    · exact .refl _

/-- No act takes somebody else's listener away but their own. -/
theorem outsider_act (ho : σ.hub.Orderly config σ.given) {n : Nat}
    (hn : σ.hub.platform.listeners[n]? = some .outsider) {a : Act} (ha : a ≠ .unlisten n) :
    (σ.act a).hub.platform.listeners[n]? = some .outsider := by
  have hlt : n < σ.hub.platform.nextListener := ho.listed hn
  have henlist : σ.hub.enlist.platform.listeners[n]? = some .outsider := by
    rw [listeners_enlist, if_neg (by omega), hn]
  have hunregister : σ.hub.unregister.1.platform.listeners[n]? = some .outsider ∧
      σ.hub.close.platform.listeners[n]? = some .outsider := by
    rcases unregister_cases σ.hub with ⟨-, hsame, hclose⟩ | ⟨⟨l, w, hreg⟩, hclose⟩
    · rw [hsame, hclose]
      exact ⟨hn, hn⟩
    · have hne : l ≠ n := by
        rintro rfl
        have hours := ho.ours.2 (congrArg Registration.owned? hreg)
        rw [hn] at hours
        cases hours
      rw [hclose, (ho.unlisted hreg).listeners, if_neg hne]
      exact ⟨hn, hn⟩
  cases hlistening : a.isListening with
  | false =>
    rw [(sameWiring_act ho hlistening).listeners]
    exact hn
  | true =>
    cases a with
    | refresh | setAvailable | attach | change | detach | work | settle => cases hlistening
    | register =>
      have hcases := ho.registering
      rw [act]
      generalize σ.hub.register.1 = h' at hcases
      generalize σ.hub.register.2 = v at hcases
      cases hcases with
      | poisoned | already | unnameable => exact hn
      | quiet | refused | rescans => exact henlist
    | unregister => exact hunregister.1
    | close => exact hunregister.2
    | listen =>
      refine (listeners_listen ..).trans ?_
      rw [if_neg (by omega), hn]
    | unlisten m =>
      have hne : m ≠ n := fun he => ha (he ▸ rfl)
      rw [act]
      split
      · exact (listeners_unlisten ..).trans (by rw [if_neg hne, hn])
      · exact hn

/-- A listener that is not registered stays so until it is registered, and the registry stays as it
is until somebody calls for a rescan: nobody else rescans. -/
theorem snapshot_act (ho : σ.hub.Orderly config σ.given) (hreg : σ.hub.isRegistered = false)
    {a : Act} (hregister : a ≠ .register) (hrefresh : a ≠ .refresh) :
    (σ.act a).hub.isRegistered = false ∧ (σ.act a).hub.snapshot = σ.hub.snapshot := by
  have hnone : σ.hub.registration.owned? = none := owned?_of_not_isRegistered hreg
  have hquiet (ha : a.isListening = false) : (σ.act a).hub.isRegistered = false := by
    rw [isRegistered, (sameWiring_act ho ha).registration]
    exact hreg
  have htell (p : MemoryPlatform Subscriber) (c : Change) (device : Int32) :
      ({ σ.hub with platform := p }.tellAll c device).snapshot = σ.hub.snapshot := by
    refine tellAll_induction (P := fun h => h.snapshot = σ.hub.snapshot)
      (fun {h id} hsame => ?_) rfl
    obtain ⟨workers, journal, hrest⟩ := (mailed_post h id c device).rest
    rw [hrest]
    exact hsame
  have hunregister : σ.hub.unregister.1 = σ.hub ∧ σ.hub.close = σ.hub := by
    rcases unregister_cases σ.hub with ⟨-, hsame⟩ | ⟨⟨l, w, hactive⟩, -⟩
    · exact hsame
    · simp [isRegistered, hactive] at hreg
  cases a with
  | register => exact absurd rfl hregister
  | refresh => exact absurd rfl hrefresh
  | unregister =>
    rw [act, hunregister.1]
    exact ⟨hreg, rfl⟩
  | close =>
    rw [act, hunregister.2]
    exact ⟨hreg, rfl⟩
  | listen => exact ⟨hreg, rfl⟩
  | unlisten n =>
    rw [act]
    split <;> exact ⟨hreg, rfl⟩
  | setAvailable b => exact ⟨hreg, rfl⟩
  | attach d => exact ⟨hquiet rfl, htell ..⟩
  | change d => exact ⟨hquiet rfl, htell ..⟩
  | detach device =>
    refine ⟨hquiet rfl, ?_⟩
    rw [act]
    split
    · exact htell ..
    · rfl
  | work id =>
    refine ⟨hquiet rfl, ?_⟩
    rw [act]
    cases hstep : σ.hub.workerStep? id with
    | none => rfl
    | some h' =>
      obtain ⟨w, -, hw, -, halive, -⟩ := ho.worker_cases hstep
      have hwork := isWorking_iff.2 ⟨w, hw, halive⟩
      rw [ho.isWorking_eq_false hnone] at hwork
      cases hwork
  | settle =>
    refine ⟨hquiet rfl, ?_⟩
    rw [act, settleWorker]
    split
    · rename_i hactive
      rw [hactive] at hnone
      cases hnone
    · rfl

/-! ## Rows of acts -/

theorem outsider_play (ho : σ.hub.Orderly config σ.given) {n : Nat}
    (hn : σ.hub.platform.listeners[n]? = some .outsider) {acts : List Act}
    (hacts : .unlisten n ∉ acts) : (σ.play acts).hub.platform.listeners[n]? = some .outsider := by
  induction acts generalizing σ with
  | nil => exact hn
  | cons a acts ih =>
    rw [List.mem_cons, not_or] at hacts
    exact ih (orderly_act ho a) (outsider_act ho hn (Ne.symm hacts.1)) hacts.2

theorem snapshot_play (ho : σ.hub.Orderly config σ.given) (hreg : σ.hub.isRegistered = false)
    {acts : List Act} (hregister : .register ∉ acts) (hrefresh : .refresh ∉ acts) :
    (σ.play acts).hub.snapshot = σ.hub.snapshot := by
  induction acts generalizing σ with
  | nil => rfl
  | cons a acts ih =>
    rw [List.mem_cons, not_or] at hregister hrefresh
    obtain ⟨hreg', hsame⟩ := snapshot_act ho hreg (Ne.symm hregister.1) (Ne.symm hrefresh.1)
    exact (ih (orderly_act ho a) hreg' hregister.2 hrefresh.2).trans hsame

/-- Where the core returns from what it is told, let calls to register, to unregister and to give
the hub up follow each other in any order. In between, other parties start and stop listening to the
platform, the platform goes away and comes back, devices come and go and workers make steps. Then:

* the listener is registered if and only if exactly one listener of the platform is the hub's, and
  if and only if exactly one worker goes on; otherwise there is none of either;
* after a call to unregister, and after the hub was given up, it is not registered;
* nobody else's listener is removed but by themselves, and the next one gets a number that is free;
* registering rescans if and only if it made the listener registered and the hub is set so; where
  the platform refuses, the caller is told so, and the listener is registered with the registry as
  it was;
* while the listener is not registered, devices that come and go leave the registry as it is, and so
  does all else but calls to register and to rescan. -/
theorem listener_lifecycle (config : Config) {core : Core} (hcore : core.Returns)
    (acts : List Act) :
    let σ := (start config core).play acts
    ((σ.hub.isRegistered = true ↔
        ∃! n : Nat, ∃ w, σ.hub.platform.listeners[n]? = some (.worker w)) ∧
      (σ.hub.isRegistered = true ↔ ∃! w, σ.hub.isWorking w = true) ∧
      (σ.hub.isRegistered = false →
        (∀ (n : Nat) w, σ.hub.platform.listeners[n]? ≠ some (.worker w)) ∧
          ∀ w, σ.hub.isWorking w = false)) ∧
    (σ.hub.unregister.1.isRegistered = false ∧ σ.hub.close.isRegistered = false) ∧
    ((∀ n : Nat, σ.hub.platform.listeners[n]? = some .outsider → ∀ later, .unlisten n ∉ later →
        (σ.play later).hub.platform.listeners[n]? = some .outsider) ∧
      σ.hub.platform.listeners[σ.hub.platform.nextListener]? = none) ∧
    ((σ.hub.Attempted σ.hub.register ↔
        (σ.hub.isRegistered = false ∧ σ.hub.register.1.isRegistered = true) ∧
          config.refreshOnRegister = true) ∧
      (¬σ.hub.Attempted σ.hub.register → σ.hub.register.1.snapshot = σ.hub.snapshot) ∧
      (σ.hub.Attempted σ.hub.register → σ.hub.register.1.isRegistered = true ∧
        (σ.hub.platform.available = true → σ.hub.register.2 = .done ∧
          σ.hub.register.1.snapshot = σ.hub.snapshot.rebuild σ.hub.platform.devices.values) ∧
        (σ.hub.platform.available = false →
          σ.hub.register.2 = .failed MemoryPlatform.offline ∧
            σ.hub.register.1.snapshot = σ.hub.snapshot))) ∧
    (σ.hub.isRegistered = false →
      (∀ d device, (σ.hub.attach d).snapshot = σ.hub.snapshot ∧
        (σ.hub.change d).snapshot = σ.hub.snapshot ∧
        (σ.hub.detach device).snapshot = σ.hub.snapshot) ∧
      ∀ later, .register ∉ later → .refresh ∉ later →
        (σ.play later).hub.snapshot = σ.hub.snapshot) := by
  intro σ
  have ho : σ.hub.Orderly config σ.given := orderly_play (orderly_create config hcore) acts
  obtain ⟨hlistener, hworker⟩ := ho.registered_iff
  refine ⟨⟨hlistener, hworker, fun hreg => ?_⟩, ho.isRegistered_unregister,
    ⟨fun n hn later => outsider_play ho hn, ?_⟩, ho.attempted_register,
    fun hreg => ⟨fun d device => ?_, fun later => snapshot_play ho hreg⟩⟩
  · have hnone : σ.hub.registration.owned? = none := owned?_of_not_isRegistered hreg
    refine ⟨fun n w hn => ?_, ho.isWorking_eq_false hnone⟩
    rw [ho.ours, hnone] at hn
    cases hn
  · rw [Option.eq_none_iff_forall_ne_some]
    exact fun l hl => Nat.lt_irrefl _ (ho.listed hl)
  · -- Each is to tell the listeners and then to let the registered worker go on.
    have hthen (a : Act) (hregister : a ≠ .register) (hrefresh : a ≠ .refresh) :
        (σ.play [a, .settle]).hub.snapshot = σ.hub.snapshot :=
      snapshot_play ho hreg (by simp [hregister.symm]) (by simp [hrefresh.symm])
    refine ⟨hthen (.attach d) nofun nofun, hthen (.change d) nofun nofun, ?_⟩
    have hdetach := hthen (.detach device) nofun nofun
    rw [Hub.detach]
    split
    · rename_i hin
      simpa only [play, List.foldl_cons, List.foldl_nil, act, hin, if_true] using hdetach
    · rfl

/-- Somebody else listens to the platform and a pad was attached, but the platform has gone away. -/
def away : Scene :=
  (start .standard ⟨false, [], false, false, []⟩).play
    [.listen, .attach (.bare 1 "Mock" "Pad"), .setAvailable false]

/-- The listener is registered without a rescan until it is unregistered, and whoever listens
besides goes on to. -/
theorem lifecycle_away :
    (∀ w, away.hub.isWorking w = false) ∧ away.hub.register.2 = .failed MemoryPlatform.offline ∧
    away.hub.register.1.isRegistered = true ∧ away.hub.register.1.snapshot = away.hub.snapshot ∧
    away.hub.register.1.unregister.1.isRegistered = false ∧
    (away.play [.register, .unlisten 1, .work 0, .unregister]).hub.platform.listeners[0]? =
      some .outsider := by
  have hcore : Core.Returns ⟨false, [], false, false, []⟩ :=
    ⟨rfl, fun party => by cases party <;> rfl⟩
  obtain ⟨⟨-, -, hnobody⟩, -, ⟨houtsider, -⟩, ⟨hiff, -, hattempt⟩, -⟩ :=
    listener_lifecycle .standard hcore
      [.listen, .attach (.bare 1 "Mock" "Pad"), .setAvailable false]
  obtain ⟨-, ⟨hgone, -⟩, -⟩ := listener_lifecycle .standard hcore
    [.listen, .attach (.bare 1 "Mock" "Pad"), .setAvailable false, .register]
  have hbefore : away.hub.isRegistered = false := by decide +kernel
  have hafter : away.hub.register.1.isRegistered = true := by decide +kernel
  have haway : away.hub.platform.available = false := by decide +kernel
  have hlistens : away.hub.platform.listeners[0]? = some .outsider := by decide +kernel
  obtain ⟨-, -, hrefused⟩ := hattempt (hiff.2 ⟨⟨hbefore, hafter⟩, by decide⟩)
  obtain ⟨htold, hsame⟩ := hrefused haway
  exact ⟨(hnobody hbefore).2, htold, hafter, hsame, hgone, houtsider 0 hlistens _ (by simp)⟩

end Scene

end InputHub
