import InputHub.Proofs.Collapsing
import InputHub.Proofs.Wiring

/-!
# Prompt stop

A worker that is asked to quit starts no rescan any more, however many requests wait on its queue
and however many follow. Only when it had found its queue empty before, so that it was about to
rescan, this one rescan still takes place.

`Hub.Beat` is the next thing that happens, as one worker sees it: a message is sent to it, it makes
a step, or something else happens. `Hub.Shift` says all that this can do to the worker and to its
rescan, and what follows is proved from it:

* `Hub.Shift.begins_le`: with a request to quit on its queue, a worker begins a rescan only when it
  was about to, and is never about to again;
* `Hub.Shift.of_ended`: a worker that has ended stays as it is;
* `Hub.prompt_stop`: what this means for a whole run;
* `Session.Steps.beats`: every session is such a run, for each of its workers.
-/

namespace InputHub

namespace Hub

/-! ## Rescans of one worker -/

/-- Whether a rescan of a worker is under way. -/
def hasBegun (h : Hub) (id : Nat) : Bool := h.rescan.any fun r => r.party = .worker id

/-- Whether a worker found its queue empty and is about to rescan. -/
def isAbout (h : Hub) (id : Nat) : Bool :=
  (h.workers[id]?).any (fun w => w.position = .rescanning) && !h.hasBegun id

/-- Whether a rescan of a worker begins between two states of the hub. -/
def begins (h h' : Hub) (id : Nat) : Bool := !h.hasBegun id && h'.hasBegun id

/-- The next thing that happens, as one worker sees it. -/
inductive Beat (id : Nat) (h : Hub) : Hub → Prop
  | mail {m : Message} {h' : Hub} : Mailed h id m h' → Beat id h h'
  | work {h' : Hub} : h.workerStep? id = some h' → Beat id h h'
  /-- Anything that leaves the worker where it is and neither begins nor ends a rescan of it. -/
  | elsewhere {h' : Hub} : h'.workers[id]? = h.workers[id]? → h'.hasBegun id = h.hasBegun id →
      Beat id h h'

/-- What can come of a hub while a worker begins some number of rescans. -/
inductive Beats (id : Nat) : Hub → Nat → Hub → Prop
  | refl {h : Hub} : Beats id h 0 h
  | head {h h' h'' : Hub} {n : Nat} : Beat id h h' → Beats id h' n h'' →
      Beats id h ((h.begins h' id).toNat + n) h''

/-- All that can happen to a worker and to its rescan. -/
inductive Shift (id : Nat) (h h' : Hub) : Prop
  | same : h'.workers[id]? = h.workers[id]? → h'.hasBegun id = h.hasBegun id → Shift id h h'
  | posted {w : Worker} {m : Message} : h.workers[id]? = some w → w.isAlive →
      h'.workers[id]? = some (w.post m) → h'.hasBegun id = h.hasBegun id → Shift id h h'
  | moved {w w' : Worker} : h.workers[id]? = some w → w.isAlive → w.position ≠ .rescanning →
      Worker.Move w w' → h'.workers[id]? = some w' → h'.hasBegun id = h.hasBegun id → Shift id h h'
  | begun {w : Worker} : h.workers[id]? = some w → w.position = .rescanning →
      h.hasBegun id = false → h'.workers[id]? = some w → h'.hasBegun id = true → Shift id h h'
  | ended {w w' : Worker} : h.workers[id]? = some w → w.position = .rescanning →
      w' = w.crash ∨ w' = w.resume → h'.workers[id]? = some w' → h'.hasBegun id = false →
      Shift id h h'

variable {id : Nat} {h h' : Hub}

theorem hasBegun_of_party {party : Party} {stage : Stage} (hr : h.rescan = some ⟨party, stage⟩) :
    h.hasBegun id = decide (party = .worker id) := by
  rw [hasBegun, hr, Option.any_some]

theorem hasBegun_of_none (hr : h.rescan = none) : h.hasBegun id = false := by
  rw [hasBegun, hr, Option.any_none]

theorem Mailed.hasBegun_eq {i : Nat} {m : Message} (hm : Mailed h i m h') :
    h'.hasBegun id = h.hasBegun id := by
  obtain ⟨workers, journal, rfl⟩ := hm.rest
  rfl

/-- A stage of a rescan begins no rescan, and ends one only with a verdict. -/
theorem Progress.hasBegun_eq {party : Party} {stage : Stage} (ha : Progress h party stage h' none)
    (hr : h.rescan = some ⟨party, stage⟩) : h'.hasBegun id = h.hasBegun id := by
  obtain ⟨stage', hr'⟩ := ha.goes_on hr
  rw [hasBegun_of_party hr, hasBegun_of_party hr']

theorem Beat.shift (hbeat : Beat id h h') : Shift id h h' := by
  cases hbeat with
  | mail hm =>
    have hworker := hm.worker
    cases hw : h.workers[id]? with
    | none => exact .same (by rw [hworker, hw]; rfl) hm.hasBegun_eq
    | some w =>
      rw [hw, Option.map_some] at hworker
      split at hworker
      · exact .posted hw ‹_› hworker hm.hasBegun_eq
      · exact .same (hworker.trans hw.symm) hm.hasBegun_eq
  | work hstep =>
    obtain ⟨w, hw, hmove⟩ := workerStep?_cases hstep
    generalize h.workerVerdict? id = v at hmove
    cases hmove with
    | onQueue hpos hq =>
      obtain ⟨halive, hmove⟩ := Worker.step?_cases hq
      exact .moved hw halive hpos hmove (by rw [workers_setWorker, if_pos rfl]) rfl
    | begins hpos hr =>
      exact .begun hw hpos (hasBegun_of_none hr) hw (by simp [hasBegun])
    | advances _ hr ha =>
      have hp := advance_cases hr ha
      exact .same (by rw [hp.workers_eq.1]) (hp.hasBegun_eq hr)
    | ends journal hpos hr ha hend =>
      refine .ended hw hpos hend ?_ (hasBegun_of_none (advance_cases hr ha).rescan_eq_none)
      rw [workers_setWorker, if_pos rfl]
  | elsewhere hw hb => exact .same hw hb

/-! ## A worker that is asked to quit -/

/-- A worker that has not ended has a request to quit on its queue. -/
def Stopping (h : Hub) (id : Nat) : Prop :=
  ∀ w, h.workers[id]? = some w → w.isAlive → .quit ∈ w.queue

/-- A message to a worker does not make it about to rescan, nor keep it from it. -/
theorem Mailed.isAbout_eq {m : Message} (hm : Mailed h id m h') :
    h'.isAbout id = h.isAbout id := by
  rw [isAbout, isAbout, hm.hasBegun_eq, hm.worker]
  cases h.workers[id]? with
  | none => rfl
  | some w =>
    rw [Option.map_some]
    split <;> rfl

theorem Mailed.stopping (hm : Mailed h id .quit h') : h'.Stopping id := by
  intro w hw halive
  rw [hm.worker] at hw
  obtain ⟨w₀, -, rfl⟩ := Option.map_eq_some_iff.1 hw
  split at halive
  · rw [if_pos ‹_›]
    exact List.mem_append_right _ (List.mem_singleton.2 rfl)
  · exact absurd halive ‹_›

namespace Shift

/-- A request to quit stays on the queue until the worker ends. -/
theorem stopping (hs : Shift id h h') (hstop : h.Stopping id) : h'.Stopping id := by
  intro w' hw' halive'
  cases hs with
  | same hw _ => exact hstop w' (hw ▸ hw') halive'
  | posted hw halive hpost _ =>
    obtain rfl := Option.some.inj (hpost.symm.trans hw')
    exact List.mem_append_left _ (hstop _ hw halive)
  | moved hw halive _ hmove hw₁ _ =>
    obtain rfl := Option.some.inj (hw₁.symm.trans hw')
    have hquit := hstop _ hw halive
    cases hmove with
    | takes hqueue =>
      rw [hqueue] at hquit
      simpa using hquit
    | starts _ hqueue =>
      rw [hqueue] at hquit
      cases hquit
    | quits => cases halive'
  | begun hw _ _ hw₁ _ => exact hstop w' (hw.trans (hw₁.symm.trans hw')) halive'
  | ended hw hpos hend hw₁ _ =>
    obtain rfl := Option.some.inj (hw₁.symm.trans hw')
    rcases hend with rfl | rfl
    · cases halive'
    · have hquit := hstop _ hw (by simp [Worker.isAlive, hpos])
      exact hquit

/-- A worker that is asked to quit begins a rescan only when it was about to, and does not come to
be about to rescan. -/
theorem begins_le (hs : Shift id h h') (hstop : h.Stopping id) :
    (h.begins h' id).toNat + (h'.isAbout id).toNat ≤ (h.isAbout id).toNat := by
  cases hs with
  | same hw hb => simp [begins, isAbout, hw, hb]
  | posted hw _ hpost hb => simp [begins, isAbout, hw, hpost, hb, Worker.post]
  | moved hw halive _ hmove hw' hb =>
    have hposition : (h'.isAbout id) = false := by
      cases hmove with
      | takes | quits => simp [isAbout, hw']
      | starts _ hqueue =>
        -- The worker would have found its queue empty.
        have hquit := hstop _ hw halive
        rw [hqueue] at hquit
        cases hquit
    simp [begins, hb, hposition]
  | begun hw hpos hb hw' hb' => simp [begins, isAbout, hw, hw', hpos, hb, hb']
  | ended _ _ hend hw' hb' =>
    rcases hend with rfl | rfl <;>
      simp [begins, isAbout, hw', hb', Worker.crash, Worker.resume]

/-- Nothing happens to a worker that has ended. -/
theorem of_ended (hs : Shift id h h') (hend : h.isWorking id = false) :
    h'.workers[id]? = h.workers[id]? ∧ h'.hasBegun id = h.hasBegun id := by
  have hgone {w : Worker} (hw : h.workers[id]? = some w) : w.isAlive = false := by
    rwa [isWorking, hw, Option.any_some] at hend
  cases hs with
  | same hw hb => exact ⟨hw, hb⟩
  | posted hw halive =>
    rw [hgone hw] at halive
    cases halive
  | moved hw halive =>
    rw [hgone hw] at halive
    cases halive
  | begun hw hpos =>
    have halive := hgone hw
    simp [Worker.isAlive, hpos] at halive
  | ended hw hpos =>
    have halive := hgone hw
    simp [Worker.isAlive, hpos] at halive

end Shift

/-- A worker whose rescan is under way stands at it. -/
def Engaged (h : Hub) (id : Nat) : Prop :=
  h.hasBegun id = true → ∃ w, h.workers[id]? = some w ∧ w.position = .rescanning

theorem Shift.engaged (hs : Shift id h h') (he : h.Engaged id) : h'.Engaged id := by
  intro hb'
  cases hs with
  | same hw hb =>
    rw [hw]
    exact he (hb ▸ hb')
  | posted hw _ hpost hb =>
    obtain ⟨w, hw₁, hpos⟩ := he (hb ▸ hb')
    obtain rfl := Option.some.inj (hw.symm.trans hw₁)
    exact ⟨_, hpost, hpos⟩
  | moved hw _ hne _ _ hb =>
    obtain ⟨w, hw₁, hpos⟩ := he (hb ▸ hb')
    obtain rfl := Option.some.inj (hw.symm.trans hw₁)
    exact absurd hpos hne
  | begun _ hpos _ hw' _ => exact ⟨_, hw', hpos⟩
  | ended _ _ _ _ hb =>
    rw [hb] at hb'
    cases hb'

theorem Engaged.hasBegun_of_ended (he : h.Engaged id) (hend : h.isWorking id = false) :
    h.hasBegun id = false := by
  by_contra hb
  obtain ⟨w, hw, hpos⟩ := he (Bool.not_eq_false _ ▸ hb)
  simp [isWorking, hw, Worker.isAlive, hpos] at hend

/-! ## Whole runs -/

namespace Beats

variable {n m : Nat} {h'' : Hub}

theorem engaged (hrun : Beats id h n h') (he : h.Engaged id) : h'.Engaged id := by
  induction hrun with
  | refl => exact he
  | head hbeat _ ih => exact ih (hbeat.shift.engaged he)

/-- A worker that is asked to quit begins at most the rescan that it was about to begin. -/
theorem le_isAbout (hrun : Beats id h n h') (hstop : h.Stopping id) :
    n ≤ (h.isAbout id).toNat := by
  induction hrun with
  | refl => exact Nat.zero_le _
  | head hbeat _ ih =>
    have hnow := hbeat.shift.begins_le hstop
    have hlater := ih (hbeat.shift.stopping hstop)
    omega

theorem of_ended (hrun : Beats id h n h') (hend : h.isWorking id = false) :
    n = 0 ∧ h'.workers[id]? = h.workers[id]? ∧ h'.hasBegun id = h.hasBegun id := by
  induction hrun with
  | refl => exact ⟨rfl, rfl, rfl⟩
  | head hbeat _ ih =>
    obtain ⟨hw, hb⟩ := hbeat.shift.of_ended hend
    obtain ⟨rfl, hw', hb'⟩ := ih (by rwa [isWorking, hw])
    exact ⟨by simp [begins, hb], hw'.trans hw, hb'.trans hb⟩

theorem trans (hfirst : Beats id h n h') (hthen : Beats id h' m h'') :
    Beats id h (n + m) h'' := by
  induction hfirst with
  | refl => rwa [Nat.zero_add]
  | head hbeat _ ih =>
    rw [Nat.add_assoc]
    exact .head hbeat (ih hthen)

end Beats

/-- A message to a worker that has ended leaves no more than a notice. -/
theorem post_of_ended (hend : h.isWorking id = false) (change : Change) (device : Int32) :
    h.post id change device = h.note [.requestDropped change device] := by
  unfold post
  split
  · rename_i w hw
    rw [isWorking, hw, Option.any_some] at hend
    rw [if_neg (by simp [hend])]
  · rfl

theorem askToQuit_of_ended (hend : h.isWorking id = false) : h.askToQuit id = h := by
  unfold askToQuit
  split
  · rename_i w hw
    rw [isWorking, hw, Option.any_some] at hend
    rw [if_neg (by simp [hend])]
  · rfl

/-- From any moment at which no rescan of a worker is under way, such as its start, let messages to
the worker, steps of it and other things follow each other in any order. After a request to quit was
sent to it, it begins at most one rescan, and this only if it had found its queue empty before the
request came. Once it has ended it begins no rescan, and requests to it are dropped. -/
theorem prompt_stop {id n m : Nat} {h₀ h h₁ h₂ : Hub} (hidle : h₀.hasBegun id = false)
    (hbefore : Beats id h₀ n h) (hquit : Mailed h id .quit h₁) (hafter : Beats id h₁ m h₂) :
    (m ≤ 1 ∧ (m = 1 → h.isAbout id)) ∧
    (h₂.isWorking id = false →
      (∀ k h₃, Beats id h₂ k h₃ → k = 0 ∧ h₃.hasBegun id = false ∧
        h₃.workers[id]? = h₂.workers[id]?) ∧
      ∀ change device, h₂.post id change device = h₂.note [.requestDropped change device] ∧
        h₂.askToQuit id = h₂) := by
  have hcount : m ≤ (h.isAbout id).toNat := by
    rw [← hquit.isAbout_eq]
    exact hafter.le_isAbout hquit.stopping
  have hengaged : h₂.Engaged id := by
    have hfirst : h₀.Engaged id := fun hb => by simp [hidle] at hb
    exact hafter.engaged ((Beat.mail hquit).shift.engaged (hbefore.engaged hfirst))
  refine ⟨⟨hcount.trans (Bool.toNat_le _), fun hm => ?_⟩, fun hend => ⟨fun k h₃ hrun => ?_,
    fun change device => ⟨post_of_ended hend change device, askToQuit_of_ended hend⟩⟩⟩
  · rw [hm] at hcount
    exact Bool.toNat_eq_one.1 (Nat.le_antisymm (Bool.toNat_le _) hcount)
  · obtain ⟨hk, hw, hb⟩ := hrun.of_ended hend
    exact ⟨hk, hb.trans (hengaged.hasBegun_of_ended hend), hw⟩

/-- How many rescans a worker begins when it makes up to `n` steps. -/
def begunIn (h : Hub) (id : Nat) : (n : Nat) → Nat
  | 0 => 0
  | n + 1 =>
    match h.workerStep? id with
    | none => 0
    | some h' => (h.begins h' id).toNat + begunIn h' id n

theorem beats_runWorker (h : Hub) (id n : Nat) :
    Beats id h (h.begunIn id n) (h.runWorker id n) := by
  induction n generalizing h with
  | zero => exact .refl
  | succ n ih =>
    rw [begunIn, runWorker]
    cases hstep : h.workerStep? id with
    | none => exact .refl
    | some h' => exact .head (.work hstep) (ih h')

/-- A worker has just started, takes a request and finds nothing else on its queue. -/
def poised : Hub :=
  ((create .standard ⟨false, [], false, false, []⟩).startWorker.2.post 0 .added 1).runWorker 0 2

/-- It is asked to quit with requests before and behind, rescans once more and ends. -/
def outpaced : Hub :=
  ((poised.post 0 .changed 1).askToQuit 0).post 0 .removed 1

theorem prompt_stop_outpaced :
    poised.isAbout 0 ∧ outpaced.begunIn 0 9 = 1 ∧ (outpaced.runWorker 0 9).isWorking 0 = false ∧
    ∀ k h₃, Beats 0 (outpaced.runWorker 0 9) k h₃ → k = 0 ∧ h₃.hasBegun 0 = false ∧
      h₃.workers[0]? = some ⟨[], .exited⟩ := by
  have hstart : Beats 0 (create .standard ⟨false, [], false, false, []⟩).startWorker.2 _ poised :=
    .head (.mail (mailed_post ..)) (beats_runWorker _ 0 2)
  have hbefore := hstart.trans (.head (.mail (mailed_post _ 0 .changed 1)) .refl)
  have hafter : Beats 0 ((poised.post 0 .changed 1).askToQuit 0) _ (outpaced.runWorker 0 9) :=
    .head (.mail (mailed_post ..)) (beats_runWorker outpaced 0 9)
  have hend : (outpaced.runWorker 0 9).isWorking 0 = false := by decide +kernel
  have hexited : (outpaced.runWorker 0 9).workers[0]? = some ⟨[], .exited⟩ := by decide +kernel
  refine ⟨by decide +kernel, by decide +kernel, hend, ?_⟩
  rw [← hexited]
  exact ((prompt_stop rfl hbefore (mailed_askToQuit ..) hafter).2 hend).1

end Hub

/-! ## Workers of a session -/

namespace Session

variable {allowed : Descriptor → Prop} {σ τ : Session}

theorem Step.nextWorker_le (hstep : Step allowed σ τ) : σ.hub.nextWorker ≤ τ.hub.nextWorker := by
  cases hstep with
  | tell => exact (Hub.SameWiring.tell ..).nextWorker.ge
  | begin _ hb => exact (Hub.SameWiring.begin? hb).nextWorker.ge
  | advance _ hr ha => exact (Hub.SameWiring.progress (Hub.advance_cases hr ha)).nextWorker.ge
  | finish _ hr ha => exact (Hub.SameWiring.progress (Hub.advance_cases hr ha)).nextWorker.ge
  | stop => exact (Hub.SameWiring.mailed (Hub.mailed_askToQuit ..)).nextWorker.ge
  | work hmove => exact (Hub.SameWiring.workerStep? hmove).nextWorker.ge
  | release => exact (Hub.SameWiring.letGo _).nextWorker.ge
  | register => exact Nat.le_succ _
  | attach | change | detach | setAvailable | lookUp | told | refresh | poison | listen | activate
  | unregister | unlisten | join | aside => exact Nat.le_refl _

/-- A step of a session, as a worker sees it that was started before. -/
theorem Step.beat (hstep : Step allowed σ τ) {id : Nat} (hid : id < σ.hub.nextWorker) :
    Hub.Beat id σ.hub τ.hub := by
  have hmailed {h : Hub} {i : Nat} {m : Message} (hm : Hub.Mailed σ.hub i m h) :
      Hub.Beat id σ.hub h := by
    by_cases hi : id = i
    · subst hi
      exact .mail hm
    · exact .elsewhere (hm.others hi) hm.hasBegun_eq
  cases hstep with
  | tell _ =>
    rename_i l _ _
    cases l with
    | worker i => exact hmailed (Hub.mailed_post ..)
    | outsider => exact .elsewhere rfl rfl
  | stop _ => exact hmailed (Hub.mailed_askToQuit ..)
  | begin _ hb =>
    obtain ⟨hnone, rfl⟩ := Hub.begin?_eq_some hb
    exact .elsewhere rfl (by rw [Hub.hasBegun_of_none hnone]; rfl)
  | advance _ hr ha =>
    have hp := Hub.advance_cases hr ha
    exact .elsewhere (by rw [hp.workers_eq.1]) (hp.hasBegun_eq hr)
  | finish _ hr ha =>
    have hp := Hub.advance_cases hr ha
    refine .elsewhere (by rw [hp.workers_eq.1]) ?_
    rw [Hub.hasBegun_of_none hp.rescan_eq_none, Hub.hasBegun_of_party hr]
    rfl
  | register =>
    refine .elsewhere ?_ rfl
    rw [Hub.startWorker, Hub.workers_setWorker, if_neg hid.ne']
  | @work i h hmove =>
    by_cases hi : i = id
    · subst hi
      exact .work hmove
    · obtain ⟨w, hw, hmove⟩ := Hub.workerStep?_cases hmove
      generalize σ.hub.workerVerdict? i = v at hmove
      cases hmove with
      | onQueue => exact .elsewhere (by rw [Hub.workers_setWorker, if_neg hi]; rfl) rfl
      | begins _ hr => exact .elsewhere rfl (by simp [Hub.hasBegun, hr, hi])
      | advances _ hr ha =>
        have hp := Hub.advance_cases hr ha
        exact .elsewhere (by rw [hp.workers_eq.1]) (hp.hasBegun_eq hr)
      | ends _ _ hr ha =>
        have hp := Hub.advance_cases hr ha
        have hother : σ.hub.hasBegun id = false := by simp [Hub.hasBegun_of_party hr, hi]
        refine .elsewhere (by rw [Hub.workers_setWorker, if_neg hi, hp.workers_eq.1]) ?_
        exact (Hub.hasBegun_of_none hp.rescan_eq_none).trans hother.symm
  | release =>
    unfold Hub.letGo
    split
    · rename_i hr
      exact .elsewhere rfl (by rw [Hub.hasBegun_of_party hr]; rfl)
    · exact .elsewhere rfl rfl
  | attach | change | detach | setAvailable | lookUp | told | refresh | poison | listen | activate
  | unregister | unlisten | join | aside => exact .elsewhere rfl rfl

/-- Every session is a run as its workers see it, with some number of rescans for each. -/
theorem Steps.beats (hrun : Steps allowed σ τ) {id : Nat} (hid : id < σ.hub.nextWorker) :
    id < τ.hub.nextWorker ∧ ∃ n, Hub.Beats id σ.hub n τ.hub := by
  induction hrun with
  | refl => exact ⟨hid, 0, .refl⟩
  | tail _ hstep ih =>
    obtain ⟨hid', n, hbeats⟩ := ih
    exact ⟨hid'.trans_le hstep.nextWorker_le, _, hbeats.trans (.head (hstep.beat hid') .refl)⟩

end Session

end InputHub
