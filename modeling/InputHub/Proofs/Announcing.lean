import InputHub.Proofs.Entering
import InputHub.Proofs.Interleaving

/-!
# Generations in order

A rescan lists the devices, installs a snapshot, tells the core of it and then the subscribers, and
anything that leaves the registry alone may come in between. `Hub.Turns` is all that can happen to a
hub that any number of parties rescan, with a `Sign` for each thing that can be seen from outside.

* `Hub.Turn.effect` says all that a turn can do to the snapshot, to what the core was told and to
  what the subscribers were told;
* `Hub.InOrder` is what every turn keeps: the core is told of the snapshots that were installed, each
  as soon as the rescan goes on, and the subscribers are one generation behind until it ends;
* `Hub.generations_in_order`: so the core is told of the generations 1, 2, 3 and so on;
* `Session.Step.turns`: every step of a session is a row of such turns, and so is the routing of an
  event (`Hub.sameRegistry_record`).
-/

namespace InputHub

namespace Core

/-- The snapshots that a core was told of. -/
def changes (c : Core) : List Snapshot :=
  c.calls.filterMap fun
    | .devicesChanged s _ => some s
    | _ => none

theorem silent_record (c : Core) (call : CoreCall) : (c.record call).silent = c.silent := by
  unfold record
  split <;> rfl

theorem breaks_record (c : Core) (call : CoreCall) : (c.record call).breaks = c.breaks := by
  unfold record breaks
  split <;> rfl

theorem changes_record {c : Core} (h : c.silent = false) (s : Snapshot) (party : Party) :
    (c.record (.devicesChanged s party)).changes = c.changes ++ [s] := by
  simp [record, h, changes]

end Core

namespace Hub

/-! ## Turns -/

/-- Something that can be seen of a rescan. -/
inductive Sign where
  | listed (found : List Descriptor)
  /-- The platform refused to list its devices, and the rescan was over. -/
  | refused (error : Error)
  | installed (snapshot : Snapshot)
  /-- The core was told, and broke off the rescan or not. -/
  | told (snapshot : Snapshot) (broken : Bool)
  | published (generation : Nat)

/-- Whether the core broke off a rescan. -/
def Sign.isBreak : Sign → Bool
  | told _ broken => broken
  | _ => false

/-- What can be seen of the next stage of the rescan under way. -/
def sign? (h : Hub) : Option Sign :=
  match h.rescan with
  | none => none
  | some ⟨_, .enumerate⟩ =>
    match h.platform.enumerate.1 with
    | .ok found => some (.listed found)
    | .error e => some (.refused e)
  | some ⟨_, .install found⟩ => some (.installed (h.snapshot.rebuild found))
  | some ⟨_, .announce⟩ => some (.told h.snapshot h.core.breaks)
  | some ⟨_, .held⟩ => none
  | some ⟨_, .publish⟩ => some (.published h.snapshot.generation)

/-- A hub to which nothing happened that concerns the registry or those who follow it. -/
structure SameRegistry (h h' : Hub) : Prop where
  snapshot : h'.snapshot = h.snapshot
  rescan : h'.rescan = h.rescan
  published : h'.published = h.published
  publications : h'.publications = h.publications
  silent : h'.core.silent = h.core.silent
  changes : h'.core.changes = h.core.changes

/-- The next thing that happens: any party starts a rescan if none is under way, the one under way
goes a stage further, the core lets it go, or something else happens. -/
inductive Turn (h : Hub) : Option Sign → Hub → Prop
  | begin {party : Party} {h' : Hub} : h.begin? party = some h' → Turn h none h'
  | advance : Turn h h.sign? h.advance.1
  | letGo : Turn h none h.letGo
  | elsewhere {h' : Hub} : SameRegistry h h' → Turn h none h'

/-- What can come of a hub, with all that was seen meanwhile. -/
inductive Turns (h : Hub) : List Sign → Hub → Prop
  | refl : Turns h [] h
  | tail {signs : List Sign} {h₁ h₂ : Hub} {sign : Option Sign} : Turns h signs h₁ →
      Turn h₁ sign h₂ → Turns h (signs ++ sign.toList) h₂

/-- How far those who follow the registry are behind it. -/
inductive Phase where
  /-- Nobody is to be told. -/
  | settled
  /-- A snapshot was installed, and the core and the subscribers are to be told. -/
  | installed
  /-- The core was told, and the subscribers are to be told. -/
  | announced
  deriving DecidableEq

def phase (h : Hub) : Phase :=
  match h.rescan with
  | none => .settled
  | some r =>
    match r.stage with
    | .enumerate | .install _ => .settled
    | .announce => .installed
    | .held | .publish => .announced

/-! ## What a turn can do -/

/-- Nothing was installed, and nobody was told. -/
structure Undisturbed (h h' : Hub) : Prop where
  snapshot : h'.snapshot = h.snapshot
  published : h'.published = h.published
  publications : h'.publications = h.publications
  silent : h'.core.silent = h.core.silent
  changes : h'.core.changes = h.core.changes
  phase : h'.phase = h.phase

/-- All that a turn can do to the registry and to those who follow it. -/
inductive Effect (h h' : Hub) : Option Sign → Prop
  | nothing : Undisturbed h h' → Effect h h' none
  | listed (found : List Descriptor) : Undisturbed h h' → Effect h h' (some (.listed found))
  | refused (e : Error) : Undisturbed h h' → h'.core = h.core → h'.rescan = none →
      Effect h h' (some (.refused e))
  | installed (found : List Descriptor) : h.phase = .settled → h'.phase = .installed →
      h'.snapshot = h.snapshot.rebuild found → h'.published = h.published → h'.core = h.core →
      Effect h h' (some (.installed (h.snapshot.rebuild found)))
  | told (broken : Bool) : h.phase = .installed →
      h'.phase = (if broken then .settled else .announced) →
      h'.snapshot = h.snapshot → h'.published = h.published → h'.core.silent = h.core.silent →
      (h.core.silent = false → h'.core.changes = h.core.changes ++ [h.snapshot]) →
      Effect h h' (some (.told h.snapshot broken))
  | published : h.phase = .announced → h'.phase = .settled → h'.snapshot = h.snapshot →
      h'.published = h.snapshot.generation → h'.core = h.core →
      Effect h h' (some (.published h.snapshot.generation))

variable {h h' : Hub} {sign : Option Sign}

theorem SameRegistry.undisturbed (hs : SameRegistry h h') : Undisturbed h h' where
  snapshot := hs.snapshot
  published := hs.published
  publications := hs.publications
  silent := hs.silent
  changes := hs.changes
  phase := by rw [phase, hs.rescan, phase]

theorem undisturbed_letGo (h : Hub) : Undisturbed h h.letGo := by
  unfold letGo
  split
  · rename_i hr
    exact ⟨rfl, rfl, rfl, rfl, rfl, by simp [phase, hr]⟩
  · exact ⟨rfl, rfl, rfl, rfl, rfl, rfl⟩

/-- Telling the core, however it takes it: only what it keeps of the call and whether it breaks off
the rescan matter. -/
theorem effect_told {party : Party} (hr : h.rescan = some ⟨party, .announce⟩) {core : Core}
    (hcore : core = h.core.record (.devicesChanged h.snapshot party)) {broken : Bool}
    (hbreaks : core.breaks = broken) (hp' : h'.phase = if broken then .settled else .announced)
    (hs : h'.snapshot = h.snapshot) (hpub : h'.published = h.published)
    (hsilent : h'.core.silent = core.silent) (hchanges : h'.core.changes = core.changes) :
    Effect h h' (some (.told h.snapshot h.core.breaks)) := by
  subst hcore
  rw [Core.breaks_record] at hbreaks
  rw [Core.silent_record] at hsilent
  rw [hbreaks]
  refine .told broken (by simp [phase, hr]) hp' hs hpub hsilent fun hloud => ?_
  rw [hchanges, Core.changes_record hloud]

/-- A stage of a rescan does what its sign says. -/
theorem effect_advance (h : Hub) : Effect h h.advance.1 h.sign? := by
  cases hr : h.rescan with
  | none =>
    have hstay : h.advance = (h, none) := by rw [advance, hr]
    rw [hstay, sign?, hr]
    exact .nothing ⟨rfl, rfl, rfl, rfl, rfl, rfl⟩
  | some r =>
    obtain ⟨party, stage⟩ := r
    rw [sign?, hr]
    rcases ha : h.advance with ⟨h', v⟩
    cases advance_cases hr ha with
    | listed havail =>
      simp only [MemoryPlatform.enumerate, havail, if_true]
      exact .listed _ ⟨rfl, rfl, rfl, rfl, rfl, by simp [phase, hr]⟩
    | refused havail =>
      simp only [MemoryPlatform.enumerate, havail, Bool.false_eq_true, if_false]
      exact .refused _ ⟨rfl, rfl, rfl, rfl, rfl, by simp [phase, hr]⟩ rfl rfl
    | installed found => exact .installed found (by simp [phase, hr]) rfl rfl rfl rfl
    | brokenOff hcore hbreaks => exact effect_told hr hcore hbreaks rfl rfl rfl rfl rfl
    | heldUp hcore hbreaks => exact effect_told hr hcore hbreaks rfl rfl rfl rfl rfl
    | announced hcore hbreaks => exact effect_told hr hcore hbreaks rfl rfl rfl rfl rfl
    | stays => exact .nothing ⟨rfl, rfl, rfl, rfl, rfl, rfl⟩
    | published => exact .published (by simp [phase, hr]) rfl rfl rfl rfl

theorem Turn.effect (hturn : Turn h sign h') : Effect h h' sign := by
  cases hturn with
  | begin hb =>
    obtain ⟨hr, rfl⟩ := begin?_eq_some hb
    exact .nothing ⟨rfl, rfl, rfl, rfl, rfl, by simp [phase, hr]⟩
  | advance => exact effect_advance h
  | letGo => exact .nothing (undisturbed_letGo h)
  | elsewhere hs => exact .nothing hs.undisturbed

/-! ## Runs -/

/-- A turn that can be made at will. -/
inductive Deed where
  | begin (party : Party)
  | advance
  | letGo
  | connect (platform : MemoryPlatform Subscriber)

/-- Makes turns one after the other, and adds what is seen of them to what was seen before. Nothing
happens where a rescan should begin during another. -/
def act (h : Hub) (signs : List Sign) : List Deed → List Sign × Hub
  | [] => (signs, h)
  | .begin party :: deeds => act ((h.begin? party).getD h) signs deeds
  | .advance :: deeds => act h.advance.1 (signs ++ h.sign?.toList) deeds
  | .letGo :: deeds => act h.letGo signs deeds
  | .connect platform :: deeds => act { h with platform } signs deeds

/-- A turn of which nothing is seen. -/
theorem Turns.tail_none {start : Hub} {signs : List Sign} (hrun : Turns start signs h)
    (hturn : Turn h none h') : Turns start signs h' := by
  simpa using hrun.tail hturn

theorem Turns.act {start : Hub} {signs : List Sign} (hrun : Turns start signs h)
    (deeds : List Deed) : Turns start (h.act signs deeds).1 (h.act signs deeds).2 := by
  induction deeds generalizing h signs with
  | nil => exact hrun
  | cons deed deeds ih =>
    cases deed with
    | begin party =>
      rw [Hub.act]
      cases hb : h.begin? party with
      | none => exact ih hrun
      | some h' => exact ih (hrun.tail_none (.begin hb))
    | advance => exact ih (hrun.tail .advance)
    | letGo => exact ih (hrun.tail_none .letGo)
    | connect platform =>
      exact ih (hrun.tail_none (.elsewhere ⟨rfl, rfl, rfl, rfl, rfl, rfl⟩))

/-! ## What was seen -/

/-- The snapshots that were installed. -/
def installs (signs : List Sign) : List Snapshot :=
  signs.filterMap fun
    | .installed s => some s
    | _ => none

/-- The snapshots that the core was told of. -/
def tellings (signs : List Sign) : List Snapshot :=
  signs.filterMap fun
    | .told s _ => some s
    | _ => none

def countMissed (n : Nat) : Sign → Nat
  | .told _ true => n + 1
  | .published _ => 0
  | _ => n

/-- How many rescans the core broke off since the subscribers were last told. -/
def missed (signs : List Sign) : Nat := signs.foldl countMissed 0

theorem missed_concat (signs : List Sign) (sign : Sign) :
    missed (signs ++ [sign]) = countMissed (missed signs) sign := by
  simp [missed]

theorem missed_eq_zero {signs : List Sign} (h : ∀ sign ∈ signs, sign.isBreak = false) :
    missed signs = 0 := by
  induction signs using List.reverseRecOn with
  | nil => rfl
  | append_singleton signs sign ih =>
    have hprev := ih fun a ha => h a (List.mem_append_left _ ha)
    have hlast := h sign (by simp)
    rw [missed_concat, hprev]
    cases sign with
    | told s broken =>
      obtain rfl : broken = false := hlast
      rfl
    | listed | refused | installed | published => rfl

/-- Snapshot, core and subscribers are in step: generations are installed one after the other, the
core is told of each when its turn has come, and the subscribers know of the last one except while
it is under way, or when the core broke off the rescans that would have told them. -/
structure InOrder (core : Core) (signs : List Sign) (h : Hub) : Prop where
  generations : (installs signs).map Snapshot.generation = List.range' 1 h.snapshot.generation
  last : (installs signs).getLast?.getD .initial = h.snapshot
  announced : installs signs =
    tellings signs ++ if h.phase = .installed then [h.snapshot] else []
  published : h.snapshot.generation =
    h.published + missed signs + if h.phase = .settled then 0 else 1
  silent : h.core.silent = core.silent
  changes : core.silent = false → h.core.changes = core.changes ++ tellings signs

theorem inOrder_create (config : Config) (core : Core) : InOrder core [] (.create config core) where
  generations := rfl
  last := rfl
  announced := rfl
  published := rfl
  silent := rfl
  changes _ := (List.append_nil _).symm

namespace InOrder

variable {core : Core} {signs : List Sign}

theorem undisturbed (ho : InOrder core signs h) (hu : Undisturbed h h') : InOrder core signs h' where
  generations := by rw [hu.snapshot, ho.generations]
  last := by rw [hu.snapshot, ho.last]
  announced := by rw [hu.phase, hu.snapshot, ← ho.announced]
  published := by rw [hu.phase, hu.snapshot, hu.published, ← ho.published]
  silent := hu.silent.trans ho.silent
  changes hs := hu.changes.trans (ho.changes hs)

theorem congr {signs' : List Sign} (ho : InOrder core signs h)
    (hinstalls : installs signs' = installs signs) (htellings : tellings signs' = tellings signs)
    (hmissed : missed signs' = missed signs) : InOrder core signs' h where
  generations := by rw [hinstalls, ho.generations]
  last := by rw [hinstalls, ho.last]
  announced := by rw [hinstalls, htellings, ← ho.announced]
  published := by rw [hmissed, ← ho.published]
  silent := ho.silent
  changes hs := by rw [htellings, ho.changes hs]

theorem installed (ho : InOrder core signs h) {found : List Descriptor}
    (hp : h.phase = .settled) (hp' : h'.phase = .installed)
    (hs : h'.snapshot = h.snapshot.rebuild found) (hpub : h'.published = h.published)
    (hcore : h'.core = h.core) :
    InOrder core (signs ++ [.installed (h.snapshot.rebuild found)]) h' := by
  have hinstalls : installs (signs ++ [.installed (h.snapshot.rebuild found)]) =
      installs signs ++ [h.snapshot.rebuild found] := by simp [installs]
  have htellings : tellings (signs ++ [.installed (h.snapshot.rebuild found)]) =
      tellings signs := by simp [tellings]
  have hgeneration := Snapshot.generation_rebuild h.snapshot found
  have hannounced := ho.announced
  have hpublished := ho.published
  simp only [hp, reduceCtorEq, if_false, if_true, List.append_nil] at hannounced hpublished
  refine ⟨?_, ?_, ?_, ?_, by rw [hcore, ho.silent], fun hsilent => ?_⟩
  · rw [hinstalls, hs, List.map_append, ho.generations, List.map_singleton, hgeneration,
      List.range'_1_concat, Nat.add_comm 1]
  · rw [hinstalls, hs, List.getLast?_concat, Option.getD_some]
  · rw [hinstalls, htellings, hp', if_pos rfl, hs, hannounced]
  · rw [hs, hgeneration, hpublished, hpub, hp', missed_concat]
    rfl
  · rw [hcore, htellings, ho.changes hsilent]

theorem told (ho : InOrder core signs h) {broken : Bool} (hp : h.phase = .installed)
    (hp' : h'.phase = if broken then .settled else .announced) (hs : h'.snapshot = h.snapshot)
    (hpub : h'.published = h.published) (hsilent : h'.core.silent = h.core.silent)
    (hchanges : h.core.silent = false → h'.core.changes = h.core.changes ++ [h.snapshot]) :
    InOrder core (signs ++ [.told h.snapshot broken]) h' := by
  have hinstalls : installs (signs ++ [.told h.snapshot broken]) = installs signs := by
    simp [installs]
  have htellings : tellings (signs ++ [.told h.snapshot broken]) =
      tellings signs ++ [h.snapshot] := by simp [tellings]
  have hannounced := ho.announced
  have hpublished := ho.published
  simp only [hp, reduceCtorEq, if_false, if_true] at hannounced hpublished
  refine ⟨?_, ?_, ?_, ?_, hsilent.trans ho.silent, fun hloud => ?_⟩
  · rw [hinstalls, hs, ho.generations]
  · rw [hinstalls, hs, ho.last]
  · rw [hinstalls, htellings, hannounced, hp']
    cases broken <;> simp
  · rw [hs, hpublished, hpub, hp', missed_concat]
    cases broken <;> rfl
  · rw [hchanges (ho.silent.trans hloud), htellings, ho.changes hloud, List.append_assoc]

theorem publish (ho : InOrder core signs h) (hp : h.phase = .announced)
    (hp' : h'.phase = .settled) (hs : h'.snapshot = h.snapshot)
    (hpub : h'.published = h.snapshot.generation) (hcore : h'.core = h.core) :
    InOrder core (signs ++ [.published h.snapshot.generation]) h' := by
  have hinstalls : installs (signs ++ [.published h.snapshot.generation]) = installs signs := by
    simp [installs]
  have htellings : tellings (signs ++ [.published h.snapshot.generation]) = tellings signs := by
    simp [tellings]
  refine ⟨?_, ?_, ?_, ?_, by rw [hcore, ho.silent], fun hsilent => ?_⟩
  · rw [hinstalls, hs, ho.generations]
  · rw [hinstalls, hs, ho.last]
  · rw [hinstalls, htellings, ho.announced, hp, hp']
    rfl
  · rw [hs, hpub, hp', missed_concat]
    rfl
  · rw [hcore, htellings, ho.changes hsilent]

theorem turn (ho : InOrder core signs h) (hturn : Turn h sign h') :
    InOrder core (signs ++ sign.toList) h' := by
  cases hturn.effect with
  | nothing hu =>
    rw [Option.toList_none, List.append_nil]
    exact ho.undisturbed hu
  | listed found hu =>
    exact (ho.undisturbed hu).congr (by simp [installs]) (by simp [tellings])
      (by simp [missed, countMissed])
  | refused e hu =>
    exact (ho.undisturbed hu).congr (by simp [installs]) (by simp [tellings])
      (by simp [missed, countMissed])
  | installed found hp hp' hs hpub hcore => exact ho.installed hp hp' hs hpub hcore
  | told broken hp hp' hs hpub hsilent hchanges =>
    exact ho.told hp hp' hs hpub hsilent hchanges
  | published hp hp' hs hpub hcore => exact ho.publish hp hp' hs hpub hcore

end InOrder

variable {config : Config} {core : Core} {signs : List Sign}

theorem Turns.inOrder (hrun : Turns (.create config core) signs h) : InOrder core signs h := by
  induction hrun with
  | refl => exact inOrder_create config core
  | tail _ hturn ih => exact ih.turn hturn

theorem Turns.last_of_told (hrun : Turns (.create config core) signs h) {before after : List Sign}
    {s : Snapshot} {broken : Bool} (hsigns : signs = before ++ .told s broken :: after) :
    (installs before).getLast? = some s := by
  induction hrun generalizing after with
  | refl => simp at hsigns
  | @tail signs h₁ h₂ sign hrun hturn ih =>
    cases sign with
    | none => exact ih (by simpa using hsigns)
    | some sign =>
      rcases concat_eq_append_cons hsigns with ⟨rfl, rfl, rfl⟩ | ⟨after', rfl, rfl⟩
      · cases hturn.effect with
        | told _ hp =>
          have hall := hrun.inOrder.announced
          rw [hp, if_pos rfl] at hall
          rw [hall, List.getLast?_concat]
      · exact ih rfl

theorem InOrder.generations_told (ho : InOrder core signs h) :
    (tellings signs).map Snapshot.generation = List.range' 1 (tellings signs).length := by
  have hall := ho.generations
  rw [ho.announced, List.map_append] at hall
  obtain ⟨n, -, htold, -⟩ := List.range'_eq_append_iff.1 hall.symm
  have hlength : (tellings signs).length = n := by simpa using congrArg List.length htold
  rw [hlength, htold]

/-- However rescans and other requests follow each other, the core is told of the generations 1, 2
and so on, each time with the snapshot that was installed last, and this is what it has on record.
The subscribers know of the generation of the registry, or of the one before exactly while a rescan
is between installing and publishing; a rescan that the core broke off is the only one that they are
not told of. A rescan whose listing fails leaves everything as it was. -/
theorem generations_in_order (hrun : Turns (.create config core) signs h) :
    (tellings signs).map Snapshot.generation = List.range' 1 (tellings signs).length ∧
    (∀ before s broken after, signs = before ++ .told s broken :: after →
      (installs before).getLast? = some s) ∧
    (installs signs).getLast?.getD .initial = h.snapshot ∧
    (core.silent = false → h.core.changes = core.changes ++ tellings signs) ∧
    h.snapshot.generation = h.published + missed signs + (if h.phase = .settled then 0 else 1) ∧
    ((∀ sign ∈ signs, sign.isBreak = false) → missed signs = 0) ∧
    ∀ h₁ h₂ e, Turn h₁ (some (.refused e)) h₂ →
      h₂.snapshot = h₁.snapshot ∧ h₂.published = h₁.published ∧
        h₂.publications = h₁.publications ∧ h₂.core = h₁.core ∧ h₂.rescan = none := by
  have ho : InOrder core signs h := hrun.inOrder
  refine ⟨ho.generations_told, fun _ _ _ _ => hrun.last_of_told, ho.last, ho.changes, ho.published,
    missed_eq_zero, fun h₁ h₂ e hturn => ?_⟩
  cases hturn.effect with
  | refused _ hu hcore hrescan =>
    exact ⟨hu.snapshot, hu.published, hu.publications, hcore, hrescan⟩

/-- A pad is listed and gone before its snapshot is installed, by a helper for which the caller has to
wait. Then a worker's rescan is refused, and its next one is held up by the core. -/
def heldUp : List Sign × Hub :=
  (create .standard ⟨false, [], true, false, []⟩).act []
    [.connect (MemoryPlatform.empty.put (.bare 1 "Mock" "Pad")), .begin .helper, .advance,
      .connect (MemoryPlatform.empty.setAvailable false), .advance, .begin .caller, .advance,
      .advance, .begin (.worker 0), .advance, .connect .empty, .begin (.worker 0), .advance,
      .advance, .advance, .advance]

theorem generations_in_order_heldUp :
    Turns (.create .standard ⟨false, [], true, false, []⟩) heldUp.1 heldUp.2 ∧
      (∀ sign ∈ heldUp.1, sign.isBreak = false) ∧ heldUp.2.isHeldUp ∧
      (tellings heldUp.1).map Snapshot.generation = [1, 2] ∧
      heldUp.2.core.changes = tellings heldUp.1 ∧
      heldUp.2.published = 1 ∧ heldUp.2.snapshot.generation = heldUp.2.published + 1 := by
  have hrun : Turns (.create .standard ⟨false, [], true, false, []⟩) heldUp.1 heldUp.2 :=
    Turns.refl.act _
  obtain ⟨htold, -, -, hchanges, hpublished, hmissed, -⟩ := generations_in_order hrun
  have hnone : ∀ sign ∈ heldUp.1, sign.isBreak = false := by decide +kernel
  have hlength : (tellings heldUp.1).length = 2 := by decide +kernel
  have hphase : heldUp.2.phase = .announced := by decide +kernel
  refine ⟨hrun, hnone, by decide +kernel, ?_, hchanges rfl, by decide +kernel, ?_⟩
  · rw [htold, hlength]
    rfl
  · rw [hpublished, hmissed hnone, hphase]
    rfl

/-! ## Turns of a session -/

/-- An event or a sample that is handed to the core is nothing to those who follow the registry. -/
theorem sameRegistry_record (h : Hub) {call : CoreCall}
    (hcall : ∀ s party, call ≠ .devicesChanged s party) (ns : List Notice) :
    SameRegistry h ({ h with core := h.core.record call }.note ns) := by
  refine ⟨rfl, rfl, rfl, rfl, Core.silent_record .., ?_⟩
  cases call with
  | devicesChanged s party => exact absurd rfl (hcall s party)
  | key | motion | sample | sampling =>
    simp only [note, Core.record, Core.changes]
    split <;> simp

theorem Mailed.sameRegistry {id : Nat} {m : Message} (hm : Mailed h id m h') :
    SameRegistry h h' := by
  obtain ⟨workers, journal, rfl⟩ := hm.rest
  exact ⟨rfl, rfl, rfl, rfl, rfl, rfl⟩

theorem turn_advance {v : Option Verdict} (ha : h.advance = (h', v)) : Turn h h.sign? h' := by
  have hturn := @Turn.advance h
  rwa [ha] at hturn

/-- A step of a worker is a turn on the registry, with another one in which the worker goes on. -/
theorem WorkerMove.turns {id : Nat} {w : Worker} {v : Option Verdict}
    (hmove : WorkerMove h id w h' v) : ∃ signs, Turns h signs h' := by
  cases hmove with
  | onQueue => exact ⟨_, Turns.refl.tail (.elsewhere ⟨rfl, rfl, rfl, rfl, rfl, rfl⟩)⟩
  | begins _ hr =>
    exact ⟨_, Turns.refl.tail (@Turn.begin _ (.worker id) _ (by rw [begin?, hr]))⟩
  | advances _ _ ha => exact ⟨_, Turns.refl.tail (turn_advance ha)⟩
  | ends _ _ _ ha =>
    exact ⟨_, (Turns.refl.tail (turn_advance ha)).tail
      (.elsewhere ⟨rfl, rfl, rfl, rfl, rfl, rfl⟩)⟩

end Hub

/-- Every step of a session is a row of turns, if a step that leaves the rescan under way where it is
leaves the core's record of changes alone. -/
theorem Session.Step.turns {allowed : Descriptor → Prop} {σ τ : Session} (hstep : Step allowed σ τ)
    (hcore : τ.hub.rescan = σ.hub.rescan → τ.hub.core.silent = σ.hub.core.silent ∧
      τ.hub.core.changes = σ.hub.core.changes) : ∃ signs, Hub.Turns σ.hub signs τ.hub := by
  have helsewhere (hs : Hub.SameRegistry σ.hub τ.hub) : ∃ signs, Hub.Turns σ.hub signs τ.hub :=
    ⟨_, Hub.Turns.refl.tail (.elsewhere hs)⟩
  cases hstep with
  | tell _ =>
    rename_i l _ _
    cases l with
    | worker i => exact helsewhere (Hub.mailed_post ..).sameRegistry
    | outsider => exact helsewhere ⟨rfl, rfl, rfl, rfl, rfl, rfl⟩
  | stop _ => exact helsewhere (Hub.mailed_askToQuit ..).sameRegistry
  | begin _ hb => exact ⟨_, Hub.Turns.refl.tail (.begin hb)⟩
  | advance _ _ ha => exact ⟨_, Hub.Turns.refl.tail (Hub.turn_advance ha)⟩
  | finish _ _ ha => exact ⟨_, Hub.Turns.refl.tail (Hub.turn_advance ha)⟩
  | work hmove =>
    obtain ⟨_, _, hmove⟩ := Hub.workerStep?_cases hmove
    exact hmove.turns
  | release => exact ⟨_, Hub.Turns.refl.tail .letGo⟩
  | aside => exact helsewhere ⟨rfl, rfl, rfl, rfl, (hcore rfl).1, (hcore rfl).2⟩
  | attach | change | detach | setAvailable | lookUp | told | refresh | register | poison | listen
  | activate | unregister | unlisten | join =>
    exact helsewhere ⟨rfl, rfl, rfl, rfl, rfl, rfl⟩

end InputHub
