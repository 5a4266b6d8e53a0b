import InputHub.Proofs.Allotting

/-!
# The order in which devices are reported

A platform may report its devices in any order. New devices are served in the order of their
platform ids, so only those that keep a qualifier are entered as they come. They stand in each
other's way if two of them keep the same one, and the device that was reported last is then left:

* `Snapshot.newcomers_eq_of_perm`, `Snapshot.assigned_perm_of_perm`: every device gets the same
  qualifier in any order;
* `Snapshot.sameNames_of_perm`: so there are the same keys, and every platform id is found under the
  same qualifier;
* `Snapshot.alike_of_perm`, `Snapshot.Coherent.keptOnce_of_alike`: the devices under them are the
  same in any order exactly if no two keep the same qualifier;
* `Snapshot.order_immaterial_iff`: so it is after every history, and where no source ever had a
  slash the order does not matter at all.
-/

namespace InputHub.Snapshot

/-- Two snapshots that no look-up tells apart. -/
structure Alike (s t : Snapshot) : Prop where
  generation : t.generation = s.generation
  qualifiers : t.qualifiers = s.qualifiers
  get? (k : String) : t.get? k = s.get? k
  getById? (id : Int32) : t.getById? id = s.getById? id

theorem alike_of_tables {s t : Snapshot} (hgen : t.generation = s.generation)
    (hget : ∀ k, t.get? k = s.get? k) (hkeys : ∀ id : Int32, t.keys[id]? = s.keys[id]?) :
    Alike s t where
  generation := hgen
  qualifiers := qualifiers_eq fun k => by simp only [mem_qualifiers_iff, hget]
  get? := hget
  getById? id := by
    rw [Snapshot.getById?, Snapshot.getById?, hkeys id, show t.get? = s.get? from funext hget]

/-- No two descriptions of a list keep the same qualifier. -/
def KeptOnce (s : Snapshot) (ds : List Descriptor) : Prop :=
  ∀ d ∈ ds, ∀ d' ∈ ds, ∀ q, s.kept? d = some q → s.kept? d' = some q → d = d'

/-! ## Lists without repeated platform ids -/

theorem firsts_eq_self {seen : List Int32} {ds : List Descriptor}
    (hids : (ds.map Descriptor.platformId).Nodup) (hseen : ∀ d ∈ ds, d.platformId ∉ seen) :
    firsts seen ds = ds := by
  induction ds generalizing seen with
  | nil => rfl
  | cons d ds ih =>
    rw [List.map_cons, List.nodup_cons] at hids
    rw [List.forall_mem_cons] at hseen
    rw [firsts, if_neg hseen.1, ih hids.2]
    intro e he hmem
    rcases List.mem_cons.1 hmem with hid | hmem
    · exact hids.1 (hid ▸ List.mem_map_of_mem he)
    · exact hseen.2 e he hmem

/-- What stands under a key is the new device entered last under it; only without one it is a device
that kept its qualifier. -/
theorem get?_rebuild_eq (s : Snapshot) (ds : List Descriptor) (k : String) :
    (s.rebuild ds).get? k =
      (((assign (s.toList.map Device.qualifier) (s.newcomers ds)).reverse.find?
          fun p => p.2.render = k).or
        ((s.survivors ds).reverse.find? fun p => p.2.render = k)).map
        fun p => .ofDescriptor p.1 p.2 := by
  rw [rebuild_eq, get?_enterAll, assigned_eq, List.reverse_append, List.find?_append]

section Listed

variable {s : Snapshot} {ds : List Descriptor} (hids : (ds.map Descriptor.platformId).Nodup)
include hids

theorem mem_survivors_iff_mem {p : Descriptor × Qualifier} :
    p ∈ s.survivors ds ↔ p.1 ∈ ds ∧ s.kept? p.1 = some p.2 := by
  rw [mem_survivors_iff, firsts_eq_self hids (by simp)]

/-- Where no qualifier is kept twice, no two of the devices that keep one have the same key. -/
theorem survivors_renders_nodup (hds : ∀ d ∈ ds, PlainSource d.source) (honce : KeptOnce s ds) :
    ((s.survivors ds).map fun p => p.2.render).Nodup := by
  have hdistinct := survivors_ids_nodup s ds
  rw [List.Nodup, List.pairwise_map] at hdistinct ⊢
  refine hdistinct.imp_of_mem fun {a b} ha hb hne hread => hne ?_
  obtain ⟨hma, hka⟩ := (mem_survivors_iff_mem hids).1 ha
  obtain ⟨hmb, hkb⟩ := (mem_survivors_iff_mem hids).1 hb
  have hq : a.2 = b.2 := toldApart_assigned s hds a (List.mem_append_left _ ha) b
    (List.mem_append_left _ hb) hread
  rw [honce a.1 hma b.1 hmb b.2 (hq ▸ hka) hkb]

end Listed

/-! ## Reported in another order -/

section Perm

variable {s : Snapshot} {ds ds' : List Descriptor} (hids : (ds.map Descriptor.platformId).Nodup)
  (hperm : ds'.Perm ds)
include hids hperm

theorem firsts_perm : (firsts [] ds').Perm (firsts [] ds) := by
  have hids' : (ds'.map Descriptor.platformId).Nodup := (hperm.map _).nodup_iff.2 hids
  rw [firsts_eq_self hids (by simp), firsts_eq_self hids' (by simp)]
  exact hperm

theorem survivors_perm : (s.survivors ds').Perm (s.survivors ds) :=
  (firsts_perm hids hperm).filterMap _

/-- New devices are served in one order, however they are reported. -/
theorem newcomers_eq_of_perm : s.newcomers ds' = s.newcomers ds := by
  have hnew : (s.newcomers ds').Perm (s.newcomers ds) := by
    rw [newcomers, newcomers]
    refine (List.mergeSort_perm _ _).trans (List.Perm.trans ?_ (List.mergeSort_perm _ _).symm)
    exact (firsts_perm hids hperm).filter _
  refine hnew.eq_of_pairwise (fun a b ha hb hab hba => ?_) (newcomers_ascending s ds')
    (newcomers_ascending s ds)
  exact List.inj_on_of_nodup_map (newcomers_ids_nodup s ds) (hnew.mem_iff.1 ha) hb
    (Int32.le_antisymm hab hba)

theorem assigned_perm_of_perm : (s.assigned ds').Perm (s.assigned ds) := by
  rw [assigned_eq, assigned_eq, newcomers_eq_of_perm hids hperm]
  exact (survivors_perm hids hperm).append_right _

theorem keys_rebuild_perm (id : Int32) :
    (s.rebuild ds').keys[id]? = (s.rebuild ds).keys[id]? := by
  refine Option.ext fun k => ?_
  simp only [keys_rebuild_iff, (assigned_perm_of_perm hids hperm).mem_iff]

variable (hds : ∀ d ∈ ds, PlainSource d.source)
include hds

/-- In any order there are the same keys, and every platform id is found under the same
qualifier. -/
theorem sameNames_of_perm : SameNames (s.rebuild ds) (s.rebuild ds') where
  qualifiers := by
    refine qualifiers_eq fun k => ?_
    simp only [mem_qualifiers_rebuild, (assigned_perm_of_perm hids hperm).mem_iff]
  byId id := by
    have hds' : ∀ d ∈ ds', PlainSource d.source := fun d hd => hds d (hperm.mem_iff.1 hd)
    refine Option.ext fun q => ?_
    simp only [qualifierOf?_rebuild_iff (toldApart_assigned s hds),
      qualifierOf?_rebuild_iff (toldApart_assigned s hds'),
      (assigned_perm_of_perm hids hperm).mem_iff]

/-- Where no two devices keep the same qualifier, the order does not matter. -/
theorem alike_of_perm (honce : KeptOnce s ds) : Alike (s.rebuild ds) (s.rebuild ds') := by
  refine alike_of_tables ?_ (fun k => ?_) (keys_rebuild_perm hids hperm)
  · rw [generation_rebuild, generation_rebuild]
  · have hnodup := survivors_renders_nodup hids hds honce
    have hkept : (s.survivors ds').reverse.find? (fun p => p.2.render = k) =
        (s.survivors ds).reverse.find? fun p => p.2.render = k := by
      refine Option.ext fun p => ?_
      rw [find?_reverse_iff hnodup, find?_reverse_iff
        (((survivors_perm hids hperm).map _).nodup_iff.2 hnodup),
        (survivors_perm hids hperm).mem_iff]
    rw [get?_rebuild_eq, get?_rebuild_eq, newcomers_eq_of_perm hids hperm, hkept]

end Perm

/-! ## Qualifiers that are kept twice -/

section Twice

variable {s : Snapshot} (hs : Coherent s) {ds : List Descriptor}
  (hids : (ds.map Descriptor.platformId).Nodup) (hds : ∀ d ∈ ds, PlainSource d.source)
include hs hids hds

/-- Among the devices that keep a qualifier, the one reported last stands under its key. -/
theorem Coherent.get?_reported_last {d : Descriptor} {q : Qualifier} (hd : d ∈ ds)
    (hq : s.kept? d = some q) :
    (s.rebuild (ds.erase d ++ [d])).get? q.render = some (.ofDescriptor d q) := by
  have hperm : (ds.erase d ++ [d]).Perm ds :=
    List.perm_append_comm.trans (List.perm_cons_erase hd).symm
  have hids' := (hperm.map Descriptor.platformId).nodup_iff.2 hids
  -- No new device reads like one that keeps its qualifier.
  have hnew : ((assign (s.toList.map Device.qualifier) (s.newcomers ds)).reverse.find?
      fun p => p.2.render = q.render) = none := by
    rw [List.find?_eq_none]
    intro p hp hread
    have hp := List.mem_reverse.1 hp
    obtain ⟨old, hold, rfl, -⟩ := kept?_eq_some_iff.1 hq
    have heq : p.2 = old.qualifier := by
      refine toldApart_assigned s hds p (List.mem_append_right _ hp) (d, old.qualifier) ?_ ?_
      · exact List.mem_append_left _ ((mem_survivors_iff_mem hids).2 ⟨hd, hq⟩)
      · exact of_decide_eq_true hread
    refine (assign_fresh (hs.numbers_suffice ds)).2 p hp (List.mem_map.2 ⟨old, ?_, heq.symm⟩)
    obtain ⟨k, -, hk⟩ := Option.bind_eq_some_iff.1 hold
    rw [hs.mem_toList_iff, hs.key_eq hk, hk]
  have hlast : s.survivors (ds.erase d ++ [d]) =
      ((ds.erase d).filterMap fun e => (s.kept? e).map fun q => (e, q)) ++ [(d, q)] := by
    rw [survivors, firsts_eq_self hids' (by simp), List.filterMap_append]
    simp [hq]
  rw [get?_rebuild_eq, newcomers_eq_of_perm hids hperm, hnew, hlast]
  simp

/-- If the order does not matter, no two devices keep the same qualifier: each of them would be the
one that is left when it is reported last. -/
theorem Coherent.keptOnce_of_alike
    (h : ∀ ds', ds'.Perm ds → Alike (s.rebuild ds) (s.rebuild ds')) : KeptOnce s ds := by
  intro d hd d' hd' q hq hq'
  have hperm {e : Descriptor} (he : e ∈ ds) : (ds.erase e ++ [e]).Perm ds :=
    List.perm_append_comm.trans (List.perm_cons_erase he).symm
  have hlast := hs.get?_reported_last hids hds hd hq
  have hlast' := hs.get?_reported_last hids hds hd' hq'
  rw [(h _ (hperm hd)).get?] at hlast
  rw [(h _ (hperm hd')).get?, hlast, Option.some.injEq] at hlast'
  exact List.inj_on_of_nodup_map hids hd hd' (congrArg Device.platformId hlast')

end Twice

/-- In a faithful snapshot a qualifier belongs to one platform id. -/
theorem Faithful.keptOnce {s : Snapshot} (hs : Faithful s) {ds : List Descriptor}
    (hids : (ds.map Descriptor.platformId).Nodup) : KeptOnce s ds := by
  intro d hd d' hd' q hq hq'
  obtain ⟨dev, hdev, -, hid⟩ := hs.kept?_eq_some hq
  obtain ⟨dev', hdev', -, hid'⟩ := hs.kept?_eq_some hq'
  rw [hdev, Option.some.injEq] at hdev'
  exact List.inj_on_of_nodup_map hids hd hd' (by rw [← hid, ← hid', hdev'])

/-! ## Every history -/

/-- After any history, over any texts, devices without slashes in their sources are reported in some
order. In every order the rescan is counted alike, there are the same keys, and every platform id is
found under the same qualifier. The devices are the same in every order exactly if no two of them
keep the same qualifier, and so it is where the registry never saw a source with a slash. -/
theorem order_immaterial_iff (history : List Request) {ds : List Descriptor}
    (hids : (ds.map Descriptor.platformId).Nodup) (hds : ∀ d ∈ ds, PlainSource d.source) :
    let s := afterAll history
    (∀ ds', ds'.Perm ds → (s.rebuild ds').generation = (s.rebuild ds).generation ∧
      SameNames (s.rebuild ds) (s.rebuild ds')) ∧
    ((∀ ds', ds'.Perm ds → Alike (s.rebuild ds) (s.rebuild ds')) ↔ KeptOnce s ds) ∧
    ((∀ r ∈ history, r.Plain) → KeptOnce s ds) := by
  intro s
  have hs : Coherent s := (fits_afterAll history).toCoherent
  refine ⟨fun ds' hperm => ⟨?_, sameNames_of_perm hids hperm hds⟩, ⟨?_, ?_⟩, fun hplain => ?_⟩
  · rw [generation_rebuild, generation_rebuild]
  · exact hs.keptOnce_of_alike hids hds
  · exact fun honce ds' hperm => alike_of_perm hids hperm hds honce
  · exact (faithful_afterAll hplain).keptOnce hids

/-- Two of three pads are left, and two more come. Whichever of them is reported first, the registry
is the same. -/
theorem order_immaterial_for_pads :
    let s := afterAll [.rebuild [.bare 1 "Mock" "Pad", .bare 2 "Mock" "Pad", .bare 3 "Mock" "Pad"],
      .refresh (.ok [.bare 3 "Mock" "Pad", .bare 2 "Mock" "Pad"])]
    Alike
      (s.rebuild [.bare 9 "Mock" "Pad", .bare 2 "Mock" "Pad", .bare 4 "Mock" "Pad",
        .bare 3 "Mock" "Pad"])
      (s.rebuild [.bare 3 "Mock" "Pad", .bare 4 "Mock" "Pad", .bare 9 "Mock" "Pad",
        .bare 2 "Mock" "Pad"]) := by
  have hids : (([.bare 9 "Mock" "Pad", .bare 2 "Mock" "Pad", .bare 4 "Mock" "Pad",
      .bare 3 "Mock" "Pad"] : List Descriptor).map Descriptor.platformId).Nodup := by decide
  obtain ⟨-, halike, honce⟩ := order_immaterial_iff
    [.rebuild [.bare 1 "Mock" "Pad", .bare 2 "Mock" "Pad", .bare 3 "Mock" "Pad"],
      .refresh (.ok [.bare 3 "Mock" "Pad", .bare 2 "Mock" "Pad"])] hids (by decide)
  exact halike.2 (honce (by decide)) _ (by decide)

/-- A ball, and a tablet that took its place because their qualifiers read the same. -/
def afterTablet : Snapshot :=
  afterAll [.rebuild [.bare 1 "hid/0" "ball"],
    .rebuild [.bare 1 "hid/0" "ball", .bare 2 "hid" "0/ball"]]

/-- The ball, described as a tablet from now on. -/
def secondTablet : Descriptor := .bare 1 "hid" "0/ball"

/-- The tablet, described as before. -/
def firstTablet : Descriptor := .bare 2 "hid" "0/ball"

/-- The platform ids of both tablets lead to the first one, so both keep its qualifier, and the one
that is reported last is left. -/
theorem tablets_overtake :
    [secondTablet, firstTablet].Perm [firstTablet, secondTablet] ∧
    ([firstTablet, secondTablet].map Descriptor.platformId).Nodup ∧
    (∀ d ∈ [firstTablet, secondTablet], PlainSource d.source) ∧
    (afterTablet.rebuild [firstTablet, secondTablet]).get? "hid/0/0/ball" =
      some (.ofDescriptor secondTablet ⟨"hid", 0, "0/ball"⟩) ∧
    (afterTablet.rebuild [secondTablet, firstTablet]).get? "hid/0/0/ball" =
      some (.ofDescriptor firstTablet ⟨"hid", 0, "0/ball"⟩) ∧
    ¬ Alike (afterTablet.rebuild [firstTablet, secondTablet])
      (afterTablet.rebuild [secondTablet, firstTablet]) := by
  have hsecond : (afterTablet.rebuild [firstTablet, secondTablet]).get? "hid/0/0/ball" =
      some (.ofDescriptor secondTablet ⟨"hid", 0, "0/ball"⟩) := by decide +kernel
  have hfirst : (afterTablet.rebuild [secondTablet, firstTablet]).get? "hid/0/0/ball" =
      some (.ofDescriptor firstTablet ⟨"hid", 0, "0/ball"⟩) := by decide +kernel
  refine ⟨by decide, by decide, by decide, hsecond, hfirst, fun h => ?_⟩
  have hsame := h.get? "hid/0/0/ball"
  rw [hfirst, hsecond] at hsame
  exact absurd hsame (by decide)

end InputHub.Snapshot
