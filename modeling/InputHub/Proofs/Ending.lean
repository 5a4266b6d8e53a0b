import InputHub.Proofs.Stopping

/-!
# A worker that is asked to quit ends

Stopping a worker asks it to quit and waits for its end. Where the core returns from what it is
told, the wait is over after a number of steps that is known from the start: one for each message on
the queue, and those that are left of a rescan.

* `Hub.Steady` is what every step of a worker keeps: the core returns, and the rescan under way, if
  any, is one of a worker that stands at it;
* `Hub.Steady.exists_workerStep?` and `Hub.Steady.stepsLeft_lt`: a worker with something to do can
  make a step, and with a request to quit on its queue has fewer steps left after it;
* `Hub.Steady.stopWorker`: so a worker that was stopped has ended, and nothing else has changed that
  the listener depends on.
-/

namespace InputHub

/-! ## Cores that return and stages that are left -/

/-- A core that neither breaks off nor holds up whoever tells it of a change. One that takes its
time is among them: the worker that tells it makes no step meanwhile. -/
def Core.Returns (c : Core) : Prop := c.breaks = false ∧ ∀ party, c.holds party = false

theorem Core.Returns.record {c : Core} (hc : c.Returns) (call : CoreCall) :
    (c.record call).Returns := by
  unfold Core.record
  split
  · exact hc
  · exact ⟨hc.1, hc.2⟩

/-- How many steps a rescan has left, that the core does not hold up. -/
def Stage.left : Stage → Nat
  | enumerate => 4
  | install _ => 3
  | announce => 2
  | held | publish => 1

theorem Stage.left_pos (stage : Stage) : 0 < stage.left := by
  cases stage <;> simp [left]

theorem Stage.left_le (stage : Stage) : stage.left ≤ 4 := by
  cases stage <;> simp [left]

namespace Hub

/-- A hub whose core returns, and whose rescan under way, if any, is one of a worker that stands at
it and is not held up. -/
structure Steady (h : Hub) : Prop extends h.Manned where
  returns : h.core.Returns
  busy {party : Party} {stage : Stage} : h.rescan = some ⟨party, stage⟩ →
    (∃ id, party = .worker id) ∧ stage ≠ .held

variable {id : Nat} {h h' h'' : Hub} {party : Party} {stage : Stage} {v : Option Verdict}

theorem Progress.returns (hp : Progress h party stage h' v) (hc : h.core.Returns) :
    h'.core.Returns ∧ v ≠ some .broken ∧ ∀ party', h'.rescan = some ⟨party', .held⟩ →
      stage = .held := by
  have hrecord := hc.record (.devicesChanged h.snapshot party)
  cases hp with
  | brokenOff hcore hbreaks =>
    rw [hcore, hrecord.1] at hbreaks
    cases hbreaks
  | heldUp hcore _ hholds =>
    rw [hcore, hrecord.2] at hholds
    cases hholds
  | announced hcore => exact ⟨hcore ▸ hrecord, nofun, by simp⟩
  | stays => exact ⟨hc, nofun, fun _ _ => rfl⟩
  | listed | refused | installed | published => exact ⟨hc, by simp, by simp [note]⟩

namespace Steady

theorem congr (hs : h.Steady) (hcore : h'.core = h.core) (hw : h'.workers = h.workers)
    (hn : h'.nextWorker = h.nextWorker) (hr : h'.rescan = h.rescan) : h'.Steady where
  toManned := hs.toManned.congr hw hn hr
  returns := hcore ▸ hs.returns
  busy := hr ▸ hs.busy

theorem progress (hs : h.Steady) (hr : h.rescan = some ⟨party, stage⟩)
    (hp : Progress h party stage h' v) : h'.Steady where
  toManned := hs.toManned.progress hr hp
  returns := (hp.returns hs.returns).1
  busy {party' stage'} hr' := by
    obtain ⟨hworker, hheld⟩ := hs.busy hr
    refine ⟨hp.party_eq hr hr' ▸ hworker, ?_⟩
    rintro rfl
    exact hheld ((hp.returns hs.returns).2.2 _ hr')

theorem mailed (hs : h.Steady) {m : Message} (hm : Mailed h id m h') : h'.Steady := by
  have hmanned := hs.toManned.mailed hm
  obtain ⟨workers, journal, rfl⟩ := hm.rest
  exact ⟨hmanned, hs.returns, hs.busy⟩

theorem workerStep? (hs : h.Steady) (hstep : h.workerStep? id = some h') : h'.Steady := by
  have hmanned := hs.toManned.workerStep? hstep
  obtain ⟨w, -, hmove⟩ := workerStep?_cases hstep
  generalize h.workerVerdict? id = v at hmove
  cases hmove with
  | onQueue => exact ⟨hmanned, hs.returns, hs.busy⟩
  | begins =>
    refine ⟨hmanned, hs.returns, fun hr => ?_⟩
    simp only [Option.some.injEq, Rescan.mk.injEq] at hr
    exact ⟨⟨id, hr.1.symm⟩, hr.2 ▸ nofun⟩
  | advances _ hr ha => exact hs.progress hr (advance_cases hr ha)
  | ends _ _ hr ha =>
    have hp := hs.progress hr (advance_cases hr ha)
    exact ⟨hmanned, hp.returns, hp.busy⟩

/-- Nobody is held up who could be let go. -/
theorem letGo_eq (hs : h.Steady) : h.letGo = h := by
  unfold letGo
  split
  · rename_i hr
    exact absurd rfl (hs.busy hr).2
  · rfl

/-- A worker that runs the rescan under way has not ended. -/
theorem isWorking_of_rescan (hs : h.Steady) (hr : h.rescan = some ⟨.worker id, stage⟩) :
    h.isWorking id = true := by
  obtain ⟨w, hw, hpos⟩ := hs.rescanning hr
  simp [isWorking, hw, Worker.isAlive, hpos]

end Steady

/-- What a step makes of a worker: it moved on its queue, or it is at its rescan, or it waits after
one. -/
theorem Steady.worker_cases (hs : h.Steady) (hstep : h.workerStep? id = some h') :
    ∃ w w', h.workers[id]? = some w ∧ h'.workers[id]? = some w' ∧ w.isAlive = true ∧
      (Worker.Move w w' ∨ (w.position = .rescanning ∧ (w' = w ∨ w' = w.resume))) := by
  obtain ⟨w, hw, hmove⟩ := workerStep?_cases hstep
  have hrescanning (hpos : w.position = .rescanning) : w.isAlive = true := by
    simp [Worker.isAlive, hpos]
  rcases hv : h.workerVerdict? id with - | v
  · rw [hv] at hmove
    cases hmove with
    | onQueue _ hq =>
      obtain ⟨halive, hmove⟩ := Worker.step?_cases hq
      exact ⟨w, _, hw, by rw [workers_setWorker, if_pos rfl], halive, .inl hmove⟩
    | begins hpos => exact ⟨w, w, hw, hw, hrescanning hpos, .inr ⟨hpos, .inl rfl⟩⟩
    | advances hpos hr ha =>
      refine ⟨w, w, hw, ?_, hrescanning hpos, .inr ⟨hpos, .inl rfl⟩⟩
      rw [(advance_cases hr ha).workers_eq.1, hw]
  · rw [hv] at hmove
    cases hmove with
    | ends _ hpos hr ha =>
      have hne : v ≠ .broken := fun he => ((advance_cases hr ha).returns hs.returns).2.1 (he ▸ rfl)
      exact ⟨w, w.resume, hw, workers_workerStep?_of_unbroken hw hstep hv hne, hrescanning hpos,
        .inr ⟨hpos, .inr rfl⟩⟩

/-! ## Steps that are left -/

/-- How many steps a worker has left that is asked to quit: one for each message on its queue, and
those of its rescan. -/
def stepsLeft (h : Hub) (id : Nat) : Nat :=
  match h.workers[id]? with
  | none => 0
  | some w => w.queue.length +
      if w.position = .rescanning then (h.rescan.map fun r => r.stage.left).getD 5 else 0

theorem le_stepsLeft {w : Worker} (hw : h.workers[id]? = some w) :
    w.queue.length ≤ h.stepsLeft id := by
  rw [stepsLeft, hw]
  exact Nat.le_add_right ..

theorem stepsLeft_le {w : Worker} (hw : h.workers[id]? = some w) :
    h.stepsLeft id ≤ w.queue.length + 5 := by
  rw [stepsLeft, hw]
  refine Nat.add_le_add_left ?_ _
  split
  · cases h.rescan with
    | none => exact Nat.le_refl 5
    | some r => exact r.stage.left_le.trans (by decide)
  · exact Nat.zero_le 5

/-- No rescan is under way but one of a worker. -/
def Alone (h : Hub) (id : Nat) : Prop :=
  ∀ party stage, h.rescan = some ⟨party, stage⟩ → party = .worker id

theorem Alone.workerStep? (ha : h.Alone id) (hstep : h.workerStep? id = some h') :
    h'.Alone id := by
  obtain ⟨w, -, hmove⟩ := workerStep?_cases hstep
  generalize h.workerVerdict? id = v at hmove
  intro party stage hr'
  cases hmove with
  | onQueue => exact ha party stage hr'
  | begins =>
    simp only [Option.some.injEq, Rescan.mk.injEq] at hr'
    exact hr'.1.symm
  | advances _ hr hadv => exact (advance_cases hr hadv).party_eq hr hr'
  | ends _ _ hr hadv =>
    have hnone := (advance_cases hr hadv).rescan_eq_none.symm.trans hr'
    cases hnone

theorem Progress.left_lt (hp : Progress h party stage h' none) (hc : h.core.Returns)
    (hheld : stage ≠ .held) : ∃ stage', h'.rescan = some ⟨party, stage'⟩ ∧
      stage'.left < stage.left := by
  cases hp with
  | heldUp hcore _ hholds =>
    rw [hcore, (hc.record _).2] at hholds
    cases hholds
  | stays => exact absurd rfl hheld
  | listed | installed | announced => exact ⟨_, rfl, by simp [Stage.left]⟩

/-- A worker that is asked to quit has fewer steps left after each. -/
theorem Steady.stepsLeft_lt (hs : h.Steady) (hstop : h.Stopping id)
    (hstep : h.workerStep? id = some h') : h'.stepsLeft id < h.stepsLeft id := by
  obtain ⟨w, hw, hmove⟩ := workerStep?_cases hstep
  generalize h.workerVerdict? id = v at hmove
  cases hmove with
  | onQueue hpos hq =>
    obtain ⟨halive, hmove⟩ := Worker.step?_cases hq
    have hquit := hstop w hw halive
    simp only [stepsLeft, workers_setWorker, if_true, hw, if_neg hpos]
    cases hmove with
    | takes hqueue => simp [hqueue]
    | starts _ hqueue =>
      rw [hqueue] at hquit
      cases hquit
    | quits hqueue => simp [hqueue]
  | begins hpos hr => simp [stepsLeft, hw, hpos, hr, Stage.left]
  | advances hpos hr ha =>
    have hp := advance_cases hr ha
    obtain ⟨stage', hr', hlt⟩ := hp.left_lt hs.returns (hs.busy hr).2
    simp [stepsLeft, hp.workers_eq.1, hw, hpos, hr, hr', hlt]
  | ends _ hpos hr _ hend =>
    simp only [stepsLeft, workers_setWorker, if_true, hw, hpos, hr, Option.map_some,
      Option.getD_some]
    have hleft := Stage.left_pos ‹_›
    rcases hend with rfl | rfl
    · simp [Worker.crash]
      omega
    · simp [Worker.resume]
      omega

/-- A worker can make a step unless it has ended, waits for messages, or waits for its turn to
rescan. -/
theorem Steady.exists_workerStep? (hs : h.Steady) (halone : h.Alone id) {w : Worker}
    (hw : h.workers[id]? = some w) (halive : w.isAlive)
    (hidle : w.position = .waiting → w.queue ≠ []) : ∃ h', h.workerStep? id = some h' := by
  rw [← Option.isSome_iff_exists, Hub.workerStep?, hw, Option.bind_some]
  by_cases hpos : w.position = .rescanning
  · simp only [hpos]
    cases hr : h.rescan with
    | none => simp only [begin?, hr, Option.isSome_some]
    | some r =>
      obtain ⟨party, stage⟩ := r
      obtain rfl := halone party stage hr
      have hheld : h.isHeldUp = false := by
        have hne := (hs.busy hr).2
        cases stage with
        | held => exact absurd rfl hne
        | enumerate | install | announce | publish => simp [isHeldUp, hr]
      simp only [hheld, ne_eq, not_true_eq_false, Bool.false_eq_true, or_self, if_false]
      rcases h.advance with ⟨h₁, - | (- | e | - | -)⟩ <;> rfl
  · have hmove := Worker.exists_step? halive hpos hidle
    cases hp : w.position with
    | rescanning => exact absurd hp hpos
    | waiting | draining | exited | crashed => rwa [Option.isSome_map]

/-! ## Runs of a worker -/

theorem isWorking_iff :
    h.isWorking id = true ↔ ∃ w, h.workers[id]? = some w ∧ w.isAlive = true := by
  rw [isWorking, Option.any_eq_true]

/-- What every step of a worker keeps is kept by all of them. -/
theorem runWorker_induction {P : Hub → Prop} {id : Nat}
    (hkeep : ∀ {h h' : Hub}, P h → h.workerStep? id = some h' → P h') {h : Hub} (hp : P h)
    (n : Nat) : P (h.runWorker id n) := by
  induction n generalizing h with
  | zero => exact hp
  | succ n ih =>
    rw [runWorker]
    cases hstep : h.workerStep? id with
    | none => exact hp
    | some h' => exact ih (hkeep hp hstep)

/-- A worker that is asked to quit ends when it makes all its steps. -/
theorem Steady.isWorking_runWorker (hs : h.Steady) (hstop : h.Stopping id) (halone : h.Alone id)
    {n : Nat} (hn : h.stepsLeft id ≤ n) : (h.runWorker id n).isWorking id = false := by
  induction n generalizing h with
  | zero =>
    by_contra hwork
    obtain ⟨w, hw, halive⟩ := isWorking_iff.1 (Bool.not_eq_false _ ▸ hwork)
    have hlength := List.length_pos_of_mem (hstop w hw halive)
    have hleft := le_stepsLeft hw
    rw [runWorker] at hleft
    omega
  | succ n ih =>
    rw [runWorker]
    cases hstep : h.workerStep? id with
    | none =>
      by_contra hwork
      obtain ⟨w, hw, halive⟩ := isWorking_iff.1 (Bool.not_eq_false _ ▸ hwork)
      have hqueue : w.queue ≠ [] := List.ne_nil_of_mem (hstop w hw halive)
      obtain ⟨h', hstep'⟩ := hs.exists_workerStep? halone hw halive fun _ => hqueue
      rw [hstep] at hstep'
      cases hstep'
    | some h' =>
      have hlt := hs.stepsLeft_lt hstop hstep
      exact ih (hs.workerStep? hstep) ((Beat.work hstep).shift.stopping hstop)
        (halone.workerStep? hstep) (by omega)

/-- What steps of a worker and messages to it leave alone. -/
structure WorkedBy (id : Nat) (h h' : Hub) : Prop extends SameWiring h h' where
  others {i : Nat} : i ≠ id → h'.workers[i]? = h.workers[i]?

namespace WorkedBy

theorem trans (hfirst : WorkedBy id h h') (hthen : WorkedBy id h' h'') : WorkedBy id h h'' where
  toSameWiring := hfirst.toSameWiring.trans hthen.toSameWiring
  others hi := (hthen.others hi).trans (hfirst.others hi)

theorem mailed {m : Message} (hm : Mailed h id m h') : WorkedBy id h h' where
  toSameWiring := .mailed hm
  others := hm.others

theorem workerStep? (hstep : h.workerStep? id = some h') : WorkedBy id h h' where
  toSameWiring := .workerStep? hstep
  others {i} hi := by
    obtain ⟨w, -, hmove⟩ := workerStep?_cases hstep
    generalize h.workerVerdict? id = v at hmove
    cases hmove with
    | onQueue =>
      rw [workers_setWorker, if_neg hi.symm]
      rfl
    | begins => rfl
    | advances _ hr ha => rw [(advance_cases hr ha).workers_eq.1]
    | ends _ _ hr ha => rw [workers_setWorker, if_neg hi.symm, (advance_cases hr ha).workers_eq.1]

theorem runWorker (h : Hub) (id n : Nat) : WorkedBy id h (h.runWorker id n) := by
  refine runWorker_induction (P := WorkedBy id h) (fun hkept hstep => ?_) ⟨.refl h, fun _ => rfl⟩ n
  exact hkept.trans (workerStep? hstep)

end WorkedBy

/-- A worker that was stopped has ended, if nobody else's rescan was in its way. -/
theorem Steady.stopWorker (hs : h.Steady) (halone : h.Alone id) :
    (h.stopWorker id).1.Steady ∧ WorkedBy id h (h.stopWorker id).1 ∧
      (h.stopWorker id).1.isWorking id = false := by
  have hmail : Mailed h id .quit (h.askToQuit id) := mailed_askToQuit h id
  have hasked : (h.askToQuit id).Steady := hs.mailed hmail
  have halone' : (h.askToQuit id).Alone id := by
    obtain ⟨workers, journal, he⟩ := hmail.rest
    rw [he]
    exact halone
  have hstop : (h.stopWorker id).1 = (h.askToQuit id).settle id := by
    conv_rhs => rw [← hasked.letGo_eq]
    rfl
  rw [hstop, settle]
  cases hw : (h.askToQuit id).workers[id]? with
  | none => exact ⟨hasked, .mailed hmail, by simp [isWorking, hw]⟩
  | some w =>
    refine ⟨runWorker_induction Steady.workerStep? hasked _,
      (WorkedBy.mailed hmail).trans (.runWorker ..),
      hasked.isWorking_runWorker hmail.stopping halone' ?_⟩
    have hfuel : 5 ≤ 2 * stages + 2 := by decide
    have hleft := stepsLeft_le hw
    omega

end Hub

end InputHub
