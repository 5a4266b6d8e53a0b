import InputHub.Proofs.History

/-!
# Qualifiers that stay

A rebuild looks a device up by its platform id and keeps the qualifier that it finds there, if
source and name are still the same. What it finds is the device's own qualifier as long as no other
one reads the same:

* `Snapshot.qualifierOf?_rebuild`: where different qualifiers read differently (`ToldApart`), every
  platform id is found under the qualifier that its device got;
* `Snapshot.qualifier_stable`: a device that is described under one source and one name has one
  qualifier all the time, whatever happens to the others;
* `Snapshot.Coherent.newcomer_fresh`: what is found for a new device has a qualifier that no device
  had before, whatever the texts are;
* `Snapshot.rebuild_twice`: so rebuilding twice from one list moves no qualifier exactly when those
  of the first time are told apart.
-/

namespace InputHub.Snapshot

/-- The qualifier under which a platform id is found. -/
def qualifierOf? (s : Snapshot) (id : Int32) : Option Qualifier :=
  (s.getById? id).map Device.qualifier

theorem kept?_eq_some_iff_qualifierOf? {s : Snapshot} {d : Descriptor} {q : Qualifier} :
    s.kept? d = some q ↔
      s.qualifierOf? d.platformId = some q ∧ q.source = d.source ∧ q.name = d.name := by
  simp only [kept?_eq_some_iff, qualifierOf?, Option.map_eq_some_iff]
  constructor
  · intro ⟨old, hold, hq, hpair⟩
    exact ⟨⟨old, hold, hq⟩, hpair⟩
  · intro ⟨⟨old, hold, hq⟩, hpair⟩
    exact ⟨old, hold, hq, hpair⟩

/-! ## Qualifiers that are told apart -/

/-- Different qualifiers of a list read differently. -/
def ToldApart (ps : List (Descriptor × Qualifier)) : Prop :=
  ∀ p ∈ ps, ∀ p' ∈ ps, p.2.render = p'.2.render → p.2 = p'.2

section Rebuilt

variable {s : Snapshot} {ds : List Descriptor}

theorem toldApart_assigned (s : Snapshot) (hds : ∀ d ∈ ds, PlainSource d.source) :
    ToldApart (s.assigned ds) := by
  intro p hp p' hp' hread
  exact Qualifier.render_injective (Faithful.assigned_plain hds hp)
    (Faithful.assigned_plain hds hp') hread

theorem mem_assigned_of_kept? {d : Descriptor} {q : Qualifier} (hd : d ∈ firsts [] ds)
    (hq : s.kept? d = some q) : (d, q) ∈ s.assigned ds := by
  rw [assigned_eq]
  exact List.mem_append_left _ (mem_survivors_iff.2 ⟨hd, hq⟩)

/-- Where qualifiers are told apart, every platform id is found under the one that its device
got. -/
theorem qualifierOf?_rebuild (h : ToldApart (s.assigned ds)) {p : Descriptor × Qualifier}
    (hp : p ∈ s.assigned ds) : (s.rebuild ds).qualifierOf? p.1.platformId = some p.2 := by
  obtain ⟨dev, hdev⟩ := mem_qualifiers_iff.1 (mem_qualifiers_rebuild.2 ⟨p, hp, rfl⟩)
  rw [qualifierOf?, getById?_rebuild hp, hdev]
  obtain ⟨p', hp', hread, rfl⟩ := of_get?_rebuild hdev
  exact congrArg some (h p' hp' p hp hread)

theorem qualifierOf?_rebuild_iff (h : ToldApart (s.assigned ds)) {id : Int32} {q : Qualifier} :
    (s.rebuild ds).qualifierOf? id = some q ↔
      ∃ p ∈ s.assigned ds, p.1.platformId = id ∧ p.2 = q := by
  constructor
  · intro hq
    obtain ⟨dev, hdev, -⟩ := Option.map_eq_some_iff.1 hq
    obtain ⟨k, hk, -⟩ := Option.bind_eq_some_iff.1 hdev
    obtain ⟨p, hp, rfl, -⟩ := keys_rebuild_iff.1 hk
    rw [qualifierOf?_rebuild h hp, Option.some.injEq] at hq
    exact ⟨p, hp, rfl, hq⟩
  · rintro ⟨p, hp, rfl, rfl⟩
    exact qualifierOf?_rebuild h hp

/-! ## Devices that are described alike -/

/-- A device keeps the qualifier under which it is found while it is described under its source and
its name. -/
theorem qualifierOf?_rebuild_kept (hds : ∀ d ∈ ds, PlainSource d.source) {id : Int32}
    {d : Descriptor} {q : Qualifier} (hfirst : firstWith? ds id = some d)
    (hq : s.qualifierOf? id = some q) (hsource : q.source = d.source) (hname : q.name = d.name) :
    (s.rebuild ds).qualifierOf? id = some q := by
  obtain rfl : d.platformId = id := firstWith?_platformId hfirst
  have hkept : s.kept? d = some q := kept?_eq_some_iff_qualifierOf?.2 ⟨hq, hsource, hname⟩
  have hin : (d, q) ∈ s.assigned ds := mem_assigned_of_kept? (mem_firsts_iff.2 hfirst) hkept
  exact qualifierOf?_rebuild (toldApart_assigned s hds) hin

theorem exists_qualifierOf?_rebuild (s : Snapshot) (hds : ∀ d ∈ ds, PlainSource d.source)
    {id : Int32} {d : Descriptor} (hfirst : firstWith? ds id = some d) :
    ∃ q, (s.rebuild ds).qualifierOf? id = some q ∧ q.source = d.source ∧ q.name = d.name := by
  obtain rfl : d.platformId = id := firstWith?_platformId hfirst
  obtain ⟨q, hq⟩ := exists_assigned (s := s) (mem_firsts_iff.2 hfirst)
  exact ⟨q, qualifierOf?_rebuild (toldApart_assigned s hds) hq, assigned_pair hq⟩

end Rebuilt

/-- A request that describes the device of a platform id under a source and a name, if it
succeeds. -/
def Request.Names (r : Request) (id : Int32) (source name : String) : Prop :=
  ∀ ds ∈ r.found?, ∃ d ∈ firstWith? ds id, d.source = source ∧ d.name = name

instance (r : Request) (id : Int32) (source name : String) : Decidable (r.Names id source name) :=
  inferInstanceAs (Decidable
    (∀ ds ∈ r.found?, ∃ d ∈ firstWith? ds id, d.source = source ∧ d.name = name))

section Stretch

variable {id : Int32} {source name : String}

theorem qualifierOf?_after {s : Snapshot} {r : Request} {q : Qualifier} (hplain : r.Plain)
    (hnames : r.Names id q.source q.name) (hq : s.qualifierOf? id = some q) :
    (s.after r).qualifierOf? id = some q := by
  rw [after_eq]
  cases hfound : r.found? with
  | none => exact hq
  | some ds =>
    obtain ⟨d, hfirst, hsource, hname⟩ := hnames ds hfound
    exact qualifierOf?_rebuild_kept (hplain ds hfound) hfirst hq hsource.symm hname.symm

/-- What a request keeps, a row of requests keeps. -/
theorem qualifierOf?_foldl_after {s : Snapshot} {q : Qualifier} {rs : List Request}
    (hplain : ∀ r ∈ rs, r.Plain) (hnames : ∀ r ∈ rs, r.Names id q.source q.name)
    (hq : s.qualifierOf? id = some q) : (rs.foldl after s).qualifierOf? id = some q := by
  induction rs generalizing s with
  | nil => exact hq
  | cons r rs ih =>
    rw [List.forall_mem_cons] at hplain hnames
    exact ih hplain.2 hnames.2 (qualifierOf?_after hplain.1 hnames.1 hq)

/-- Over a stretch of requests that describe a device under one source and one name whenever they
succeed, the device has the same qualifier from the first success on. Other devices come and go
meanwhile, and requests fail. -/
theorem qualifier_stable {before stretch : List Request} (hplain : ∀ r ∈ stretch, r.Plain)
    (hnames : ∀ r ∈ stretch, r.Names id source name) :
    ∃ q : Qualifier, q.source = source ∧ q.name = name ∧
      ∀ part, part <+: stretch → (∃ r ∈ part, r.found?.isSome) →
        (afterAll (before ++ part)).qualifierOf? id = some q := by
  induction stretch generalizing before with
  | nil =>
    refine ⟨⟨source, 0, name⟩, rfl, rfl, fun part hpart ⟨r, hr, _⟩ => ?_⟩
    rw [List.prefix_nil.1 hpart] at hr
    cases hr
  | cons r rest ih =>
    rw [List.forall_mem_cons] at hplain hnames
    cases hfound : r.found? with
    | none =>
      -- Nothing is known of the device before the first success.
      obtain ⟨q, hsource, hname, hq⟩ := @ih (before ++ [r]) hplain.2 hnames.2
      refine ⟨q, hsource, hname, fun part hpart ⟨r', hr', hsome⟩ => ?_⟩
      rcases List.prefix_cons_iff.1 hpart with rfl | ⟨later, rfl, hlater⟩
      · cases hr'
      · rcases List.mem_cons.1 hr' with rfl | hr'
        · simp [hfound] at hsome
        · have hkeep := hq later hlater ⟨r', hr', hsome⟩
          rwa [List.append_assoc] at hkeep
    | some ds =>
      obtain ⟨d, hfirst, rfl, rfl⟩ := hnames.1 ds hfound
      obtain ⟨q, hq, hsource, hname⟩ :=
        exists_qualifierOf?_rebuild (afterAll before) (hplain.1 ds hfound) hfirst
      have hstart : ((afterAll before).after r).qualifierOf? id = some q := by
        rw [after_eq, hfound]
        exact hq
      refine ⟨q, hsource, hname, fun part hpart ⟨r', hr', _⟩ => ?_⟩
      rcases List.prefix_cons_iff.1 hpart with rfl | ⟨later, rfl, hlater⟩
      · cases hr'
      · rw [afterAll, List.foldl_append, List.foldl_cons]
        refine qualifierOf?_foldl_after (fun r hr => hplain.2 r (hlater.subset hr)) ?_ hstart
        intro r hr
        rw [hsource, hname]
        exact hnames.2 r (hlater.subset hr)

end Stretch

/-- The second of two pads is described by every list of the stretch. Meanwhile the first one goes,
another one comes, a refresh fails, and the platform id is reported twice. -/
theorem qualifier_stable_second_pad : ∃ q : Qualifier, q.source = "Mock" ∧ q.name = "Pad" ∧
    ∀ part, part <+: [.rebuild [.bare 1 "Mock" "Pad", .bare 2 "Mock" "Pad"],
        .rebuild [.bare 2 "Mock" "Pad"], .refresh (.error (.io "gone")),
        .refresh (.ok [.bare 3 "Mock" "Pad", (Descriptor.bare 2 "Mock" "Pad").withCapabilities .keys,
          .bare 2 "Mock" "Ghost"])] →
      (∃ r ∈ part, r.found?.isSome) →
        (afterAll ([.rebuild [.bare 2 "Mock" "Wheel"]] ++ part)).qualifierOf? 2 = some q :=
  qualifier_stable (by decide) (by decide)

/-! ## The same list again -/

/-- Two snapshots with the same keys in which every platform id is found under the same
qualifier. -/
structure SameNames (s t : Snapshot) : Prop where
  qualifiers : t.qualifiers = s.qualifiers
  byId (id : Int32) : t.qualifierOf? id = s.qualifierOf? id

theorem qualifiers_eq {s t : Snapshot} (h : ∀ k, k ∈ t.qualifiers ↔ k ∈ s.qualifiers) :
    t.qualifiers = s.qualifiers := by
  have hperm : t.qualifiers.Perm s.qualifiers :=
    (List.perm_ext_iff_of_nodup Std.TreeMap.nodup_keys Std.TreeMap.nodup_keys).2 h
  refine hperm.eq_of_pairwise (fun a b _ _ hab hba => ?_) Std.TreeMap.ordered_keys
    Std.TreeMap.ordered_keys
  exact absurd (Std.OrientedCmp.gt_of_lt hab) (by rw [hba]; decide)

section Twice

variable {s : Snapshot} {ds : List Descriptor}

/-- Where qualifiers are told apart, the same list gives every device the same one again. -/
theorem mem_assigned_again (h : ToldApart (s.assigned ds)) {p : Descriptor × Qualifier} :
    p ∈ (s.rebuild ds).assigned ds ↔ p ∈ s.assigned ds := by
  have hagain {p : Descriptor × Qualifier} (hp : p ∈ s.assigned ds) :
      p ∈ (s.rebuild ds).assigned ds := by
    refine mem_assigned_of_kept? (mem_firsts_of_assigned hp) ?_
    exact kept?_eq_some_iff_qualifierOf?.2 ⟨qualifierOf?_rebuild h hp, assigned_pair hp⟩
  refine ⟨fun hp => ?_, hagain⟩
  obtain ⟨q, hq⟩ := exists_assigned (s := s) (mem_firsts_of_assigned hp)
  have hsame : p = (p.1, q) :=
    List.inj_on_of_nodup_map (assigned_ids_nodup (s.rebuild ds) ds) hp (hagain hq) rfl
  rw [hsame]
  exact hq

theorem sameNames_again (h : ToldApart (s.assigned ds)) :
    SameNames (s.rebuild ds) ((s.rebuild ds).rebuild ds) where
  qualifiers := by
    refine qualifiers_eq fun k => ?_
    simp only [mem_qualifiers_rebuild, mem_assigned_again h]
  byId id := by
    have h' : ToldApart ((s.rebuild ds).assigned ds) := by
      simpa only [ToldApart, mem_assigned_again h] using h
    refine Option.ext fun q => ?_
    simp only [qualifierOf?_rebuild_iff h, qualifierOf?_rebuild_iff h', mem_assigned_again h]

/-- What is found for a new device has a qualifier that no device had before: new devices are
entered last, so if anything stands in its place it is another new one. -/
theorem Coherent.newcomer_fresh (hs : Coherent s) {d : Descriptor} (hd : d ∈ s.newcomers ds) :
    ∃ q, (s.rebuild ds).qualifierOf? d.platformId = some q ∧
      ∀ dev ∈ s.toList, dev.qualifier ≠ q := by
  have hassign : d ∈ (assign (s.toList.map Device.qualifier) (s.newcomers ds)).map Prod.fst := by
    rwa [map_fst_assign]
  obtain ⟨⟨d, q⟩, hnew, rfl⟩ := List.mem_map.1 hassign
  have hin : (d, q) ∈ s.assigned ds := List.mem_append_right _ hnew
  obtain ⟨p, hlast⟩ := exists_find?_reverse (fun p : Descriptor × Qualifier => p.2.render) hnew
  have hfind : (s.assigned ds).reverse.find? (fun p => p.2.render = q.render) = some p := by
    rw [assigned_eq, List.reverse_append, List.find?_append, hlast, Option.some_or]
  refine ⟨p.2, ?_, fun dev hdev hq => ?_⟩
  · rw [qualifierOf?, getById?_rebuild hin, rebuild_eq, get?_enterAll, hfind]
    rfl
  · have hfree := (assign_fresh (hs.numbers_suffice ds)).2 p
      (of_find?_reverse (f := fun p : Descriptor × Qualifier => p.2.render) hlast).1
    exact hfree (List.mem_map.2 ⟨dev, hdev, hq⟩)

/-- A device that is found under another's qualifier counts as new the next time, and so it is found
under yet another one then. -/
theorem toldApart_of_sameNames (h : SameNames (s.rebuild ds) ((s.rebuild ds).rebuild ds)) :
    ToldApart (s.assigned ds) := by
  have hs : Coherent (s.rebuild ds) := coherent_rebuild s ds
  have hown {p : Descriptor × Qualifier} (hp : p ∈ s.assigned ds) {dev : Device}
      (hdev : (s.rebuild ds).get? p.2.render = some dev) : dev.qualifier = p.2 := by
    have hread : dev.qualifier.render = p.2.render := hs.key_eq hdev
    have hfound : (s.rebuild ds).qualifierOf? p.1.platformId = some dev.qualifier := by
      rw [qualifierOf?, getById?_rebuild hp, hdev, Option.map_some]
    cases hkept : (s.rebuild ds).kept? p.1 with
    | some q =>
      obtain ⟨hq, hsource, hname⟩ := kept?_eq_some_iff_qualifierOf?.1 hkept
      obtain rfl : dev.qualifier = q := Option.some.inj (hfound.symm.trans hq)
      obtain ⟨hsource', hname'⟩ := assigned_pair hp
      exact Qualifier.eq_of_render (hsource.trans hsource'.symm) (hname.trans hname'.symm) hread
    | none =>
      have hnew : p.1 ∈ (s.rebuild ds).newcomers ds :=
        mem_newcomers_iff.2 ⟨mem_firsts_of_assigned hp, hkept⟩
      obtain ⟨q, hq, hfree⟩ := hs.newcomer_fresh hnew
      rw [h.byId, hfound, Option.some.injEq] at hq
      have hin : dev ∈ (s.rebuild ds).toList := by
        rw [hs.mem_toList_iff, hread]
        exact hdev
      exact absurd hq (hfree dev hin)
  intro p hp p' hp' hread
  obtain ⟨dev, hdev⟩ := mem_qualifiers_iff.1 (mem_qualifiers_rebuild.2 ⟨p, hp, rfl⟩)
  rw [← hown hp hdev]
  exact hown hp' (hread ▸ hdev)

end Twice

/-- Rebuilding once more from the same list counts one rescan more. It moves no qualifier exactly
when those of the first time are told apart, and so they are where no source has a slash, whatever
the snapshot before. -/
theorem rebuild_twice (s : Snapshot) (ds : List Descriptor) :
    ((s.rebuild ds).rebuild ds).generation = (s.rebuild ds).generation + 1 ∧
      (SameNames (s.rebuild ds) ((s.rebuild ds).rebuild ds) ↔ ToldApart (s.assigned ds)) ∧
      ((∀ d ∈ ds, PlainSource d.source) → ToldApart (s.assigned ds)) :=
  ⟨generation_rebuild _ ds, ⟨toldApart_of_sameNames, sameNames_again⟩, toldApart_assigned s⟩

/-- A ball, and a tablet whose qualifier reads like that of a second ball. -/
def lookalikes : List Descriptor := [.bare 1 "hid/0" "ball", .bare 2 "hid" "1/ball"]

/-- A registry in which the ball is the second one. -/
def afterBalls : Snapshot :=
  afterAll [.rebuild [.bare 9 "hid/0" "ball"],
    .rebuild [.bare 9 "hid/0" "ball", .bare 1 "hid/0" "ball"]]

/-- The ball keeps the number 1 after the other one has gone, and the tablet takes its place. The
same list again gives the ball the number 0, so a key is added and the ball is found under it. -/
theorem lookalikes_move :
    ¬ SameNames (afterBalls.rebuild lookalikes) ((afterBalls.rebuild lookalikes).rebuild lookalikes) ∧
    (afterBalls.rebuild lookalikes).qualifiers = ["hid/0/1/ball"] ∧
    ((afterBalls.rebuild lookalikes).rebuild lookalikes).qualifiers =
      ["hid/0/0/ball", "hid/0/1/ball"] ∧
    (afterBalls.rebuild lookalikes).qualifierOf? 1 = some ⟨"hid", 0, "1/ball"⟩ ∧
    ((afterBalls.rebuild lookalikes).rebuild lookalikes).qualifierOf? 1 =
      some ⟨"hid/0", 0, "ball"⟩ := by
  have hfirst : (afterBalls.rebuild lookalikes).qualifiers = ["hid/0/1/ball"] := by decide +kernel
  have hthen : ((afterBalls.rebuild lookalikes).rebuild lookalikes).qualifiers =
      ["hid/0/0/ball", "hid/0/1/ball"] := by decide +kernel
  refine ⟨fun h => ?_, hfirst, hthen, by decide +kernel, by decide +kernel⟩
  have hsame := h.qualifiers
  rw [hfirst, hthen] at hsame
  exact absurd hsame (by decide)

end InputHub.Snapshot
