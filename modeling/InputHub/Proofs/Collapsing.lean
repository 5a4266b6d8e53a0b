import Mathlib.Data.List.Induction
import InputHub.Proofs.Interleaving

/-!
# One rescan for many requests

A worker takes a request from its queue, drops those that wait behind it, and rescans once it finds
the queue empty. Requests come in at any time meanwhile: before the worker drops any, while it does,
and during the rescan. `Worker.History` is all that can happen to a worker, with a `Mark` for each
thing that did:

* `Worker.Step.cared`: from the moment it was posted, a request was answered, or is being answered,
  or the worker is going to rescan;
* `Worker.tally` has the messages that were taken for each rescan: some for each
  (`Worker.History.batches_full`), and all of them in the order in which they were posted
  (`Worker.History.fifo`);
* `Worker.no_request_lost`: so a worker that waits with nothing on its queue has rescanned after
  every request, at most once for each, and whether or not its rescans failed;
* `Session.Steps.worker_history`: every worker of a session has such a history, unless a rescan of
  it broke off.
-/

namespace InputHub

namespace Worker

/-! ## What happens to a worker -/

/-- A thing that happened to a worker. -/
inductive Mark where
  /-- A message was put on the queue. -/
  | posted (m : Message)
  /-- A message came after the worker had ended. -/
  | dropped (m : Message)
  /-- The worker took a message from the queue. -/
  | took (m : Message)
  /-- The worker found the queue empty and started to rescan. -/
  | started
  /-- The rescan was over, with an error or without. -/
  | ended (error : Option Error)
  deriving DecidableEq

/-- The mark of the worker's next move on its queue. -/
def mark (w : Worker) : Mark :=
  match w.queue with
  | [] => .started
  | m :: _ => .took m

/-- The next thing that happens: somebody sends a message, the worker makes a move on its queue, or
its rescan is over. -/
inductive Step (w : Worker) : Mark → Worker → Prop
  | post (m : Message) : w.isAlive → Step w (.posted m) (w.post m)
  | drop (m : Message) : w.isAlive = false → Step w (.dropped m) w
  | move {w' : Worker} {ns : List Notice} : w.step? = some (w', ns) → Step w w.mark w'
  | finish (error : Option Error) : w.position = .rescanning → Step w (.ended error) w.resume

/-- What can come of a worker that has just started, with all that happened to it. -/
inductive History : List Mark → Worker → Prop
  | fresh : History [] .fresh
  | tail {marks : List Mark} {w w' : Worker} {mark : Mark} : History marks w → Step w mark w' →
      History (marks ++ [mark]) w'

/-- All that a move on the queue can do. -/
inductive Move (w : Worker) : Worker → Prop
  | takes {change : Change} {id : Int32} {q : List Message} : w.queue = .rescan change id :: q →
      Move w ⟨q, .draining⟩
  | starts : w.position = .draining → w.queue = [] → Move w ⟨[], .rescanning⟩
  | quits {q : List Message} : w.queue = .quit :: q → Move w ⟨[], .exited⟩

variable {w w' : Worker} {marks : List Mark} {m : Mark}

theorem step?_cases {ns : List Notice} (h : w.step? = some (w', ns)) :
    w.isAlive ∧ Move w w' := by
  obtain ⟨queue, position⟩ := w
  unfold step? at h
  split at h <;> simp only [Option.some.injEq, Prod.mk.injEq, reduceCtorEq] at h <;>
    obtain ⟨rfl, -⟩ := h <;> rename_i hpos hqueue <;> dsimp only at hpos hqueue <;>
    subst hpos hqueue <;> refine ⟨rfl, ?_⟩
  · exact .takes rfl
  · exact .takes rfl
  · exact .starts rfl rfl
  · exact .quits rfl
  · exact .quits rfl

/-- A worker that has not ended and has something to do can do it. -/
theorem exists_step? (halive : w.isAlive) (hpos : w.position ≠ .rescanning)
    (hidle : w.position = .waiting → w.queue ≠ []) : w.step?.isSome := by
  obtain ⟨queue, position⟩ := w
  cases position with
  | waiting =>
    cases queue with
    | nil => exact absurd rfl (hidle rfl)
    | cons msg q => cases msg <;> rfl
  | draining =>
    cases queue with
    | nil => rfl
    | cons msg q => cases msg <;> rfl
  | rescanning => exact absurd rfl hpos
  | exited => cases halive
  | crashed => cases halive

/-! ## Messages in their order -/

/-- The messages that were put on the queue. -/
def posts (marks : List Mark) : List Message :=
  marks.filterMap fun
    | .posted m => some m
    | _ => none

/-- The messages that were taken from the queue. -/
def takes (marks : List Mark) : List Message :=
  marks.filterMap fun
    | .took m => some m
    | _ => none

theorem posts_concat (marks : List Mark) (m : Mark) :
    posts (marks ++ [m]) = posts marks ++ posts [m] := by
  rw [posts, List.filterMap_append]
  rfl

theorem takes_concat (marks : List Mark) (m : Mark) :
    takes (marks ++ [m]) = takes marks ++ takes [m] := by
  rw [takes, List.filterMap_append]
  rfl

/-- Messages are taken in the order in which they were posted. Those that were not taken are on the
queue, or were left there when the worker ended. -/
theorem History.fifo (h : History marks w) :
    ∃ left, posts marks = takes marks ++ w.queue ++ left ∧ (w.isAlive → left = []) := by
  induction h with
  | fresh => exact ⟨[], rfl, fun _ => rfl⟩
  | tail _ hstep ih =>
    obtain ⟨left, hposts, hleft⟩ := ih
    rw [posts_concat, takes_concat, hposts]
    cases hstep with
    | post msg halive =>
      obtain rfl := hleft halive
      exact ⟨[], by simp [posts, takes, post], fun _ => rfl⟩
    | drop msg halive => exact ⟨left, by simp [posts, takes], hleft⟩
    | finish error hpos =>
      obtain rfl := hleft (by simp [isAlive, hpos])
      exact ⟨[], by simp [posts, takes, resume], fun _ => rfl⟩
    | move hmove =>
      obtain ⟨halive, hmove⟩ := step?_cases hmove
      obtain rfl := hleft halive
      cases hmove with
      | takes hqueue => exact ⟨[], by simp [mark, hqueue, posts, takes], fun _ => rfl⟩
      | starts _ hqueue => exact ⟨[], by simp [mark, hqueue, posts, takes], fun _ => rfl⟩
      | quits hqueue => exact ⟨_, by simp [mark, hqueue, posts, takes]; rfl, by simp [isAlive]⟩

theorem History.mem_posts (h : History marks w) {msg : Message} (hm : msg ∈ w.queue) :
    msg ∈ posts marks := by
  obtain ⟨left, hposts, -⟩ := h.fifo
  rw [hposts]
  exact List.mem_append_left _ (List.mem_append_right _ hm)

/-! ## The messages of each rescan -/

/-- The messages that a worker took for each rescan, and those that it took since. -/
structure Tally where
  batches : List (List Message)
  hand : List Message

/-- Counts one more thing that happened. -/
def Tally.add (t : Tally) : Mark → Tally
  | .took m => { t with hand := t.hand ++ [m] }
  | .started => ⟨t.batches ++ [t.hand], []⟩
  | _ => t

/-- The messages of each rescan in what happened to a worker. -/
def tally (marks : List Mark) : Tally := marks.foldl Tally.add ⟨[], []⟩

theorem tally_concat (marks : List Mark) (m : Mark) :
    tally (marks ++ [m]) = (tally marks).add m := by
  simp [tally]

/-- Every message that was taken is counted once, in order. -/
theorem flatten_tally (marks : List Mark) :
    (tally marks).batches.flatten ++ (tally marks).hand = takes marks := by
  induction marks using List.reverseRecOn with
  | nil => rfl
  | append_singleton marks m ih =>
    rw [tally_concat, takes_concat, ← ih]
    cases m <;> simp [Tally.add, takes]

theorem length_batches (marks : List Mark) :
    (tally marks).batches.length = marks.count .started := by
  induction marks using List.reverseRecOn with
  | nil => rfl
  | append_singleton marks m ih =>
    rw [tally_concat, List.count_append, ← ih]
    cases m <;> simp [Tally.add]

/-- A worker drops requests only after it took one, and ends when it takes anything else, so it
takes requests for every rescan. -/
theorem History.batches_full (h : History marks w) :
    ((w.position = .draining → (tally marks).hand ≠ []) ∧
      (w.isAlive → .quit ∉ (tally marks).hand)) ∧
    ∀ batch ∈ (tally marks).batches, batch ≠ [] ∧ .quit ∉ batch := by
  induction h with
  | fresh => exact ⟨⟨nofun, fun _ => nofun⟩, nofun⟩
  | tail _ hstep ih =>
    obtain ⟨⟨hhand, hquit⟩, hfull⟩ := ih
    rw [tally_concat]
    cases hstep with
    | post => exact ⟨⟨hhand, hquit⟩, hfull⟩
    | drop => exact ⟨⟨hhand, hquit⟩, hfull⟩
    | finish _ hpos => exact ⟨⟨nofun, fun _ => hquit (by simp [isAlive, hpos])⟩, hfull⟩
    | move hmove =>
      obtain ⟨halive, hmove⟩ := step?_cases hmove
      cases hmove with
      | takes hqueue =>
        rw [mark, hqueue]
        exact ⟨⟨fun _ => by simp [Tally.add], fun _ => by simp [Tally.add, hquit halive]⟩, hfull⟩
      | starts hpos hqueue =>
        rw [mark, hqueue]
        refine ⟨⟨nofun, fun _ => nofun⟩, fun batch hbatch => ?_⟩
        rcases List.mem_append.1 hbatch with hbatch | hbatch
        · exact hfull batch hbatch
        · obtain rfl := List.mem_singleton.1 hbatch
          exact ⟨hhand hpos, hquit halive⟩
      | quits hqueue =>
        rw [mark, hqueue]
        exact ⟨⟨nofun, nofun⟩, hfull⟩

theorem length_le_length_flatten {batches : List (List Message)}
    (h : ∀ batch ∈ batches, batch ≠ []) : batches.length ≤ batches.flatten.length := by
  induction batches with
  | nil => simp
  | cons batch batches ih =>
    rw [List.forall_mem_cons] at h
    have hpos := List.length_pos_iff.2 h.1
    have := ih h.2
    rw [List.flatten_cons, List.length_append, List.length_cons]
    omega

/-! ## Requests that wait for an answer -/

/-- A rescan started and was over. -/
def Rescanned (marks : List Mark) : Prop :=
  ∃ before after error, marks = before ++ .started :: after ∧ .ended error ∈ after

theorem Rescanned.concat (h : Rescanned marks) (m : Mark) : Rescanned (marks ++ [m]) := by
  obtain ⟨before, after, error, rfl, hin⟩ := h
  exact ⟨before, after ++ [m], error, by simp, List.mem_append_left _ hin⟩

/-- A request was answered by what happened since, or is being answered, or the worker is going to
rescan. -/
def Cared (w : Worker) (since : List Mark) : Prop :=
  Rescanned since ∨ (w.position = .rescanning ∧ .started ∈ since) ∨ w.position = .draining ∨
    w.queue ≠ []

/-- Nothing but a request to quit makes a worker forget a request. -/
theorem Step.cared (hstep : Step w m w') (hquit : .quit ∉ w.queue) {since : List Mark}
    (h : Cared w since) : Cared w' (since ++ [m]) := by
  cases hstep with
  | post msg => exact .inr (.inr (.inr (by simp [Worker.post])))
  | drop msg =>
    rcases h with h | ⟨hpos, hin⟩ | h | h
    · exact .inl (h.concat _)
    · exact .inr (.inl ⟨hpos, List.mem_append_left _ hin⟩)
    · exact .inr (.inr (.inl h))
    · exact .inr (.inr (.inr h))
  | move hmove =>
    obtain ⟨-, hmove⟩ := step?_cases hmove
    cases hmove with
    | takes => exact .inr (.inr (.inl rfl))
    | starts _ hqueue =>
      -- The rescan that starts is for everything that was posted so far.
      exact .inr (.inl ⟨rfl, by simp [mark, hqueue]⟩)
    | quits hqueue => exact absurd (by simp [hqueue]) hquit
  | finish error hpos =>
    rcases h with h | ⟨-, hin⟩ | h | h
    · exact .inl (h.concat _)
    · obtain ⟨before, after, rfl⟩ := List.append_of_mem hin
      exact .inl ⟨before, after ++ [.ended error], error, by simp, by simp⟩
    · rw [hpos] at h
      cases h
    · exact .inr (.inr (.inr h))

theorem Step.queue_ne_nil_of_posted (hstep : Step w m w') {msg : Message} (hm : m = .posted msg) :
    w'.queue ≠ [] := by
  cases hstep with
  | post => simp [Worker.post]
  | drop => cases hm
  | move =>
    unfold mark at hm
    split at hm <;> cases hm
  | finish => cases hm

theorem History.cared (h : History marks w) (hquit : .quit ∉ posts marks) {before after : List Mark}
    {msg : Message} (hmarks : marks = before ++ .posted msg :: after) : Cared w after := by
  induction h generalizing after with
  | fresh => simp at hmarks
  | @tail marks w w' m hrun hstep ih =>
    have hquit' : .quit ∉ posts marks := fun hin => hquit (by simp [posts_concat, hin])
    rcases concat_eq_append_cons hmarks with ⟨-, rfl, rfl⟩ | ⟨after', rfl, rfl⟩
    · exact .inr (.inr (.inr (hstep.queue_ne_nil_of_posted rfl)))
    · exact hstep.cared (fun hin => hquit' (hrun.mem_posts hin)) (ih hquit' rfl)

/-- A worker that was never asked to quit goes on. -/
theorem History.isAlive (h : History marks w) (hquit : .quit ∉ posts marks) : w.isAlive := by
  induction h with
  | fresh => rfl
  | @tail marks w w' m hrun hstep ih =>
    have hquit' : .quit ∉ posts marks := fun hin => hquit (by simp [posts_concat, hin])
    cases hstep with
    | post => exact ih hquit'
    | drop => exact ih hquit'
    | finish => rfl
    | move hmove =>
      obtain ⟨-, hmove⟩ := step?_cases hmove
      cases hmove with
      | takes | starts => rfl
      | quits hqueue => exact absurd (hrun.mem_posts (by simp [hqueue])) hquit'

end Worker

/-- Only a worker that rescans gets a verdict, in the last stage of its own rescan. -/
theorem Hub.workerVerdict?_eq_some {h : Hub} {id : Nat} {v : Verdict}
    (hv : h.workerVerdict? id = some v) :
    ∃ w stage, h.workers[id]? = some w ∧ w.position = .rescanning ∧
      h.rescan = some ⟨.worker id, stage⟩ ∧ h.advance.2 = some v := by
  unfold workerVerdict? at hv
  split at hv
  · rename_i w r hw hr
    split at hv
    · rename_i hown
      obtain ⟨party, stage⟩ := r
      obtain ⟨hpos, rfl⟩ := hown
      exact ⟨w, stage, hw, hpos, hr, hv⟩
    · cases hv
  · cases hv

/-- A worker whose rescan ends, with an error or without, makes a step and waits again, with the
queue that it has, unless the rescan broke off. -/
theorem Hub.exists_workerStep?_of_unbroken {h : Hub} {id : Nat} {w : Worker} {v : Verdict}
    (hw : h.workers[id]? = some w) (hv : h.workerVerdict? id = some v) (hne : v ≠ .broken) :
    ∃ h', h.workerStep? id = some h' ∧ h'.workers[id]? = some ⟨w.queue, .waiting⟩ := by
  obtain ⟨_, stage, hw', hpos, hr, hverdict⟩ := workerVerdict?_eq_some hv
  obtain rfl := Option.some.inj (hw.symm.trans hw')
  rcases ha : h.advance with ⟨h₁, v₁⟩
  rw [ha] at hverdict
  obtain rfl : v₁ = some v := hverdict
  -- A rescan that the core holds up gets no verdict.
  have hfree : h.isHeldUp = false := by
    have hends := advance_cases hr ha
    cases stage with
    | held => cases hends
    | enumerate | install | announce | publish => simp [isHeldUp, hr]
  cases v with
  | broken => exact absurd rfl hne
  | done | failed | blocked =>
    simp [workerStep?, hw, hpos, hr, hfree, ha, workers_setWorker, Worker.resume]

theorem Hub.workers_workerStep?_of_unbroken {h h' : Hub} {id : Nat} {w : Worker} {v : Verdict}
    (hw : h.workers[id]? = some w) (hstep : h.workerStep? id = some h')
    (hv : h.workerVerdict? id = some v) (hne : v ≠ .broken) :
    h'.workers[id]? = some ⟨w.queue, .waiting⟩ := by
  obtain ⟨_, hstep', hwaits⟩ := exists_workerStep?_of_unbroken hw hv hne
  obtain rfl := Option.some.inj (hstep.symm.trans hstep')
  exact hwaits

namespace Worker

/-- A worker that nobody asked to quit and that waits with nothing on its queue has rescanned after
every request. Any worker takes requests for every rescan that were taken for no other, in the order
in which they came, so there are no more rescans than requests. However its rescans end, a worker
does not, unless it is asked to quit, and it has a next move unless it rescans or has nothing to do.
When its rescan fails it makes a step after which it waits, with its queue as it was. -/
theorem no_request_lost {marks : List Mark} {w : Worker} (h : History marks w) :
    (.quit ∉ posts marks → w.position = .waiting → w.queue = [] → ∀ before m after,
      marks = before ++ .posted m :: after → Rescanned after) ∧
    ((tally marks).batches.length = marks.count .started ∧
      (∀ batch ∈ (tally marks).batches, batch ≠ [] ∧ .quit ∉ batch) ∧
      (tally marks).batches.flatten <+: posts marks ∧
      marks.count .started ≤ (posts marks).countP (· ≠ .quit)) ∧
    ((.quit ∉ posts marks → w.isAlive) ∧
      (w.isAlive → w.position ≠ .rescanning → (w.position = .waiting → w.queue ≠ []) →
        w.step?.isSome) ∧
      ∀ (hub : Hub) (id : Nat) (e : Error), hub.workers[id]? = some w →
        hub.workerVerdict? id = some (.failed e) →
          ∃ next, hub.workerStep? id = some next ∧
            next.workers[id]? = some ⟨w.queue, .waiting⟩) := by
  have hbatches : (tally marks).batches.flatten <+: posts marks := by
    obtain ⟨left, hposts, -⟩ := h.fifo
    rw [hposts, ← flatten_tally, List.append_assoc, List.append_assoc]
    exact List.prefix_append ..
  refine ⟨fun hquit hpos hqueue before m after hmarks => ?_, ⟨length_batches marks,
    h.batches_full.2, hbatches, ?_⟩, h.isAlive, exists_step?,
    fun _ _ _ hw hv => Hub.exists_workerStep?_of_unbroken hw hv nofun⟩
  · rcases h.cared hquit hmarks with hdone | ⟨hpos', -⟩ | hpos' | hqueue'
    · exact hdone
    · rw [hpos] at hpos'
      cases hpos'
    · rw [hpos] at hpos'
      cases hpos'
    · exact absurd hqueue hqueue'
  · have hrequests : ∀ m ∈ (tally marks).batches.flatten, m ≠ .quit := by
      rintro m hm rfl
      obtain ⟨batch, hbatch, hin⟩ := List.mem_flatten.1 hm
      exact (h.batches_full.2 batch hbatch).2 hin
    calc
      marks.count .started = (tally marks).batches.length := (length_batches marks).symm
      _ ≤ (tally marks).batches.flatten.length :=
        length_le_length_flatten fun batch hbatch => (h.batches_full.2 batch hbatch).1
      _ = (tally marks).batches.flatten.countP (· ≠ .quit) :=
        (List.countP_eq_length.2 fun m hm => decide_eq_true (hrequests m hm)).symm
      _ ≤ (posts marks).countP (· ≠ .quit) := hbatches.sublist.countP_le

/-- Three requests come before the worker drops any, while it does, and during a rescan that
fails. -/
def busy : List Mark :=
  [.posted (.rescan .added 1), .took (.rescan .added 1), .posted (.rescan .changed 1),
    .took (.rescan .changed 1), .started, .posted (.rescan .removed 1),
    .ended (some (.io "gone")), .took (.rescan .removed 1), .started, .ended none]

theorem busy_not_lost : History busy .fresh ∧ .quit ∉ posts busy ∧
    (tally busy).batches =
      [[.rescan .added 1, .rescan .changed 1], [.rescan .removed 1]] ∧
    ∀ before m after, busy = before ++ .posted m :: after → Rescanned after := by
  have hrun : History busy .fresh :=
    ((((((((((History.fresh.tail (.post (.rescan .added 1) rfl)).tail (.move rfl)).tail
      (.post (.rescan .changed 1) rfl)).tail (.move rfl)).tail (.move rfl)).tail
      (.post (.rescan .removed 1) rfl)).tail (.finish (some (.io "gone")) rfl)).tail
      (.move rfl)).tail (.move rfl)).tail (.finish none rfl))
  exact ⟨hrun, by decide, by decide, (no_request_lost hrun).1 (by decide) rfl rfl⟩

end Worker

/-! ## Workers of a session -/

namespace Session

/-- A worker after a step of a session: it has just started, or it was there before and stayed as it
was, or something happened to it, or its rescan broke off. -/
theorem Step.worker {allowed : Descriptor → Prop} {σ τ : Session} (hstep : Step allowed σ τ)
    {id : Nat} {w' : Worker} (hw' : τ.hub.workers[id]? = some w') :
    w' = .fresh ∨ w'.position = .crashed ∨ ∃ w, σ.hub.workers[id]? = some w ∧
      (w' = w ∨ ∃ mark, Worker.Step w mark w') := by
  have hmailed {h : Hub} {i : Nat} {m : Message} (hm : Hub.Mailed σ.hub i m h)
      (hw' : h.workers[id]? = some w') : ∃ w, σ.hub.workers[id]? = some w ∧
        (w' = w ∨ ∃ mark, Worker.Step w mark w') := by
    by_cases hi : id = i
    · subst hi
      rw [hm.worker] at hw'
      obtain ⟨w, hw, rfl⟩ := Option.map_eq_some_iff.1 hw'
      refine ⟨w, hw, ?_⟩
      split
      · exact .inr ⟨_, .post m ‹_›⟩
      · exact .inl rfl
    · rw [hm.others hi] at hw'
      exact ⟨w', hw', .inl rfl⟩
  have hkept (hw : σ.hub.workers[id]? = some w') : w' = .fresh ∨ w'.position = .crashed ∨
      ∃ w, σ.hub.workers[id]? = some w ∧ (w' = w ∨ ∃ mark, Worker.Step w mark w') :=
    .inr (.inr ⟨w', hw, .inl rfl⟩)
  cases hstep with
  | tell _ =>
    rename_i l _ _
    cases l with
    | worker i => exact .inr (.inr (hmailed (Hub.mailed_post ..) hw'))
    | outsider => exact hkept hw'
  | stop _ => exact .inr (.inr (hmailed (Hub.mailed_askToQuit ..) hw'))
  | begin _ hb =>
    obtain ⟨-, rfl⟩ := Hub.begin?_eq_some hb
    exact hkept hw'
  | advance _ hr ha =>
    rw [(Hub.advance_cases hr ha).workers_eq.1] at hw'
    exact hkept hw'
  | finish _ hr ha =>
    rw [(Hub.advance_cases hr ha).workers_eq.1] at hw'
    exact hkept hw'
  | register =>
    simp only [Hub.startWorker] at hw'
    rw [Hub.workers_setWorker] at hw'
    split at hw'
    · exact .inl (Option.some.inj hw').symm
    · exact hkept hw'
  | work hmove =>
    obtain ⟨w, hw, hmove⟩ := Hub.workerStep?_cases hmove
    generalize σ.hub.workerVerdict? _ = v at hmove
    cases hmove with
    | onQueue _ hq =>
      rw [Hub.workers_setWorker] at hw'
      split at hw'
      · rename_i hi
        obtain rfl := Option.some.inj hw'
        exact .inr (.inr ⟨w, hi ▸ hw, .inr ⟨_, .move hq⟩⟩)
      · exact hkept hw'
    | begins => exact hkept hw'
    | advances _ hr ha =>
      rw [(Hub.advance_cases hr ha).workers_eq.1] at hw'
      exact hkept hw'
    | ends _ hpos hr ha hend =>
      rw [Hub.workers_setWorker] at hw'
      split at hw'
      · rename_i hi
        obtain rfl := Option.some.inj hw'
        rcases hend with rfl | rfl
        · exact .inr (.inl rfl)
        · exact .inr (.inr ⟨w, hi ▸ hw, .inr ⟨_, .finish none hpos⟩⟩)
      · rw [(Hub.advance_cases hr ha).workers_eq.1] at hw'
        exact hkept hw'
  | release =>
    have hworkers : σ.hub.letGo.workers = σ.hub.workers := by
      unfold Hub.letGo
      split <;> rfl
    rw [hworkers] at hw'
    exact hkept hw'
  | attach | change | detach | setAvailable | lookUp | told | refresh | poison | listen | activate
  | unregister | unlisten | join | aside => exact hkept hw'

/-- Nothing happens any more to a worker whose rescan broke off. -/
theorem crashed_of_step {w w' : Worker} {mark : Worker.Mark} (hstep : Worker.Step w mark w')
    (hpos : w.position = .crashed) : w'.position = .crashed := by
  cases hstep with
  | post _ halive => simp [Worker.isAlive, hpos] at halive
  | drop => exact hpos
  | move hmove => simp [Worker.step?, hpos] at hmove
  | finish _ hrescan => simp [hpos] at hrescan

theorem Steps.worker_history {allowed : Descriptor → Prop} {config : Config} {core : Core}
    {σ : Session} (hrun : Steps allowed (start config core) σ) {id : Nat} {w : Worker}
    (hw : σ.hub.workers[id]? = some w) :
    w.position = .crashed ∨ ∃ marks, Worker.History marks w := by
  induction hrun generalizing w with
  | refl => simp [start, Hub.create] at hw
  | tail _ hstep ih =>
    rcases hstep.worker hw with rfl | hcrash | ⟨w₀, hw₀, rfl | ⟨mark, hmark⟩⟩
    · exact .inr ⟨[], .fresh⟩
    · exact .inl hcrash
    · exact ih hw₀
    · rcases ih hw₀ with hpos | ⟨marks, hmarks⟩
      · exact .inl (crashed_of_step hmark hpos)
      · exact .inr ⟨_, hmarks.tail hmark⟩

end Session

end InputHub
