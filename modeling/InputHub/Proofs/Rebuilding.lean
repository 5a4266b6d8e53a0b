import Mathlib.Data.FinEnum
import Mathlib.Data.Fintype.Card
import InputHub.Proofs.Entering
import InputHub.Proofs.Numbering
import InputHub.Proofs.Rendering

/-!
# What a rebuild makes of a list of descriptions

The devices of the next snapshot are the first descriptions of each platform id, each under a
qualifier that it keeps or that is new:

* `Snapshot.mem_firsts_iff`: a description counts iff it is the first one with its platform id;
* `Snapshot.assigned_perm`: exactly these get a qualifier, one each;
* `Snapshot.assigned_pair`: a qualifier has the source and the name of its description.

None of this depends on the texts, and neither does `Snapshot.coherent_rebuild`: the tables of the
next snapshot fit together. That no device takes the place of another does: it holds from a snapshot
that is `Faithful`, for descriptions whose sources have no slash
(`Snapshot.Faithful.renders_nodup`), and it makes the next snapshot faithful again
(`Snapshot.Faithful.rebuild`).
-/

namespace InputHub.Snapshot

/-! ## First descriptions -/

/-- The first description of a list with a platform id. -/
def firstWith? (ds : List Descriptor) (id : Int32) : Option Descriptor :=
  ds.find? fun d => d.platformId = id

theorem mem_firsts_seen {seen : List Int32} {ds : List Descriptor} {d : Descriptor} :
    d ∈ firsts seen ds ↔ d.platformId ∉ seen ∧ firstWith? ds d.platformId = some d := by
  induction ds generalizing seen with
  | nil => simp [firsts, firstWith?]
  | cons e ds ih =>
    simp only [firsts, firstWith?, List.find?_cons]
    by_cases hid : e.platformId = d.platformId
    · by_cases hs : e.platformId ∈ seen
      · simp [hs, ih, ← hid]
      · simp [hs, ih, ← hid, eq_comm]
    · have hne : d ≠ e := fun h => hid (h ▸ rfl)
      by_cases hs : e.platformId ∈ seen
      · simp [hs, ih, hid, firstWith?]
      · simp [hs, ih, hid, hne, Ne.symm hid, firstWith?]

theorem mem_firsts_iff {ds : List Descriptor} {d : Descriptor} :
    d ∈ firsts [] ds ↔ firstWith? ds d.platformId = some d := by
  simp [mem_firsts_seen]

theorem firstWith?_platformId {ds : List Descriptor} {id : Int32} {d : Descriptor}
    (h : firstWith? ds id = some d) : d.platformId = id := by
  simpa using List.find?_some h

theorem exists_firstWith? {ds : List Descriptor} {d : Descriptor} (hd : d ∈ ds) :
    ∃ e, firstWith? ds d.platformId = some e := by
  rw [← Option.isSome_iff_exists, firstWith?, List.find?_isSome]
  exact ⟨d, hd, decide_eq_true rfl⟩

theorem mem_of_mem_firsts {ds : List Descriptor} {d : Descriptor} (h : d ∈ firsts [] ds) :
    d ∈ ds :=
  List.mem_of_find?_eq_some (mem_firsts_iff.1 h)

theorem firsts_nodup (seen : List Int32) (ds : List Descriptor) :
    ((firsts seen ds).map Descriptor.platformId).Nodup := by
  induction ds generalizing seen with
  | nil => simp [firsts]
  | cons d ds ih =>
    rw [firsts]
    split
    · exact ih seen
    · refine List.nodup_cons.2 ⟨fun h => ?_, ih _⟩
      obtain ⟨e, he, hid⟩ := List.mem_map.1 h
      exact (mem_firsts_seen.1 he).1 (hid ▸ List.mem_cons_self ..)

/-! ## Qualifiers -/

theorem kept?_eq_some_iff {s : Snapshot} {d : Descriptor} {q : Qualifier} :
    s.kept? d = some q ↔ ∃ old, s.getById? d.platformId = some old ∧
      old.qualifier = q ∧ q.source = d.source ∧ q.name = d.name := by
  simp only [kept?, Option.bind_eq_some_iff]
  refine exists_congr fun old => and_congr_right fun _ => ?_
  split
  · rename_i h
    simp only [Option.some.injEq]
    exact ⟨fun e => ⟨e, e ▸ h⟩, And.left⟩
  · rename_i h
    simp only [reduceCtorEq, false_iff]
    rintro ⟨rfl, h'⟩
    exact h h'

/-- The descriptions of a list that get a new qualifier, in the order in which they get it. -/
def newcomers (s : Snapshot) (ds : List Descriptor) : List Descriptor :=
  ((firsts [] ds).filter fun d => (s.kept? d).isNone).mergeSort
    fun a b => decide (a.platformId ≤ b.platformId)

/-- The descriptions of a list that keep a qualifier, with it. -/
def survivors (s : Snapshot) (ds : List Descriptor) : List (Descriptor × Qualifier) :=
  (firsts [] ds).filterMap fun d => (s.kept? d).map fun q => (d, q)

theorem assigned_eq (s : Snapshot) (ds : List Descriptor) :
    s.assigned ds =
      s.survivors ds ++ assign (s.toList.map Device.qualifier) (s.newcomers ds) := rfl

theorem mem_survivors_iff {s : Snapshot} {ds : List Descriptor} {p : Descriptor × Qualifier} :
    p ∈ s.survivors ds ↔ p.1 ∈ firsts [] ds ∧ s.kept? p.1 = some p.2 := by
  obtain ⟨d, q⟩ := p
  simp only [survivors, List.mem_filterMap, Option.map_eq_some_iff, Prod.mk.injEq]
  constructor
  · rintro ⟨d', hd, q', hq, rfl, rfl⟩
    exact ⟨hd, hq⟩
  · intro ⟨hd, hq⟩
    exact ⟨d, hd, q, hq, rfl, rfl⟩

theorem mem_newcomers_iff {s : Snapshot} {ds : List Descriptor} {d : Descriptor} :
    d ∈ s.newcomers ds ↔ d ∈ firsts [] ds ∧ s.kept? d = none := by
  simp [newcomers, (List.mergeSort_perm _ _).mem_iff, List.mem_filter]

theorem newcomers_ids_nodup (s : Snapshot) (ds : List Descriptor) :
    ((s.newcomers ds).map Descriptor.platformId).Nodup := by
  rw [newcomers, ((List.mergeSort_perm _ _).map _).nodup_iff]
  exact (firsts_nodup [] ds).sublist (List.filter_sublist.map _)

/-- No more numbers are held under a source and a name than there are devices with them. -/
theorem held_toList_le (s : Snapshot) (source name : String) :
    held (s.toList.map Device.qualifier) source name ≤
      (s.toList.filter fun dev =>
        dev.qualifier.source = source ∧ dev.qualifier.name = name).length := by
  rw [← List.length_map Device.qualifier]
  refine (Finset.card_le_card fun q hq => ?_).trans (List.toFinset_card_le _)
  simp only [Finset.mem_filter, List.mem_toFinset, List.mem_map] at hq ⊢
  obtain ⟨⟨dev, hdev, rfl⟩, hpair⟩ := hq
  exact ⟨dev, List.mem_filter.2 ⟨hdev, decide_eq_true hpair⟩, rfl⟩

theorem map_fst_survivors (s : Snapshot) (ds : List Descriptor) :
    (s.survivors ds).map Prod.fst = (firsts [] ds).filter fun d => (s.kept? d).isSome := by
  rw [survivors]
  induction firsts [] ds with
  | nil => rfl
  | cons d ds ih => cases h : s.kept? d <;> simp [h, ih]

/-- Every first description gets a qualifier, and gets one only. -/
theorem assigned_perm (s : Snapshot) (ds : List Descriptor) :
    ((s.assigned ds).map Prod.fst).Perm (firsts [] ds) := by
  rw [assigned_eq, List.map_append, map_fst_survivors, map_fst_assign]
  refine ((List.mergeSort_perm _ _).append_left _).trans ?_
  have h := List.filter_append_perm (fun d => (s.kept? d).isSome) (firsts [] ds)
  simpa [Option.not_isSome] using h

theorem assigned_ids_nodup (s : Snapshot) (ds : List Descriptor) :
    ((s.assigned ds).map fun p => p.1.platformId).Nodup := by
  have h := (assigned_perm s ds).map Descriptor.platformId
  rw [List.map_map] at h
  exact h.nodup_iff.2 (firsts_nodup [] ds)

theorem survivors_ids_nodup (s : Snapshot) (ds : List Descriptor) :
    ((s.survivors ds).map fun p => p.1.platformId).Nodup := by
  have h := assigned_ids_nodup s ds
  rw [assigned_eq, List.map_append] at h
  exact h.of_append_left

theorem mem_firsts_of_assigned {s : Snapshot} {ds : List Descriptor} {p : Descriptor × Qualifier}
    (h : p ∈ s.assigned ds) : p.1 ∈ firsts [] ds :=
  (assigned_perm s ds).mem_iff.1 (List.mem_map_of_mem h)

theorem exists_assigned {s : Snapshot} {ds : List Descriptor} {d : Descriptor}
    (h : d ∈ firsts [] ds) : ∃ q, (d, q) ∈ s.assigned ds := by
  obtain ⟨⟨d, q⟩, hp, rfl⟩ := List.mem_map.1 ((assigned_perm s ds).mem_iff.2 h)
  exact ⟨q, hp⟩

theorem assigned_pair {s : Snapshot} {ds : List Descriptor} {p : Descriptor × Qualifier}
    (h : p ∈ s.assigned ds) : p.2.source = p.1.source ∧ p.2.name = p.1.name := by
  rw [assigned_eq, List.mem_append] at h
  rcases h with h | h
  · obtain ⟨-, -, -, hpair⟩ := kept?_eq_some_iff.1 (mem_survivors_iff.1 h).2
    exact hpair
  · exact assign_pair h

/-! ## Coherent snapshots -/

/-- A snapshot whose tables fit together: every device stands under the text of its own qualifier
and its platform id leads there, and every platform id leads to some device. -/
structure Coherent (s : Snapshot) : Prop where
  key_eq {k : String} {dev : Device} : s.get? k = some dev → dev.qualifier.render = k
  id_key {k : String} {dev : Device} : s.get? k = some dev → s.keys[dev.platformId]? = some k
  key_found {id : Int32} {k : String} : s.keys[id]? = some k → ∃ dev, s.get? k = some dev

theorem coherent_initial : Coherent initial where
  key_eq h := by rw [get?_initial] at h; cases h
  id_key h := by rw [get?_initial] at h; cases h
  key_found h := by rw [keys_initial] at h; cases h

theorem keys_rebuild_iff {s : Snapshot} {ds : List Descriptor} {id : Int32} {k : String} :
    (s.rebuild ds).keys[id]? = some k ↔
      ∃ p ∈ s.assigned ds, p.1.platformId = id ∧ p.2.render = k := by
  rw [rebuild_eq, keys_enterAll_iff (assigned_ids_nodup s ds)]

/-- A platform id leads to what stands under the text of the qualifier that its device got. -/
theorem getById?_rebuild {s : Snapshot} {ds : List Descriptor} {p : Descriptor × Qualifier}
    (hp : p ∈ s.assigned ds) :
    (s.rebuild ds).getById? p.1.platformId = (s.rebuild ds).get? p.2.render := by
  rw [getById?, keys_rebuild_iff.2 ⟨p, hp, rfl, rfl⟩, Option.bind_some]

theorem getById?_rebuild_eq_none {s : Snapshot} {ds : List Descriptor} {id : Int32}
    (h : ∀ d ∈ ds, d.platformId ≠ id) : (s.rebuild ds).getById? id = none := by
  have hkey : (s.rebuild ds).keys[id]? = none := by
    rw [Option.eq_none_iff_forall_ne_some]
    intro k hk
    obtain ⟨p, hp, hid, -⟩ := keys_rebuild_iff.1 hk
    exact h p.1 (mem_of_mem_firsts (mem_firsts_of_assigned hp)) hid
  rw [getById?, hkey, Option.bind_none]

/-- A device of a rebuild is one of those that got a qualifier. -/
theorem of_get?_rebuild {s : Snapshot} {ds : List Descriptor} {k : String} {dev : Device}
    (h : (s.rebuild ds).get? k = some dev) :
    ∃ p ∈ s.assigned ds, p.2.render = k ∧ .ofDescriptor p.1 p.2 = dev := by
  rw [rebuild_eq, get?_enterAll] at h
  obtain ⟨p, hfind, hdev⟩ := Option.map_eq_some_iff.1 h
  obtain ⟨hp, hk⟩ := of_find?_reverse (f := fun p : Descriptor × Qualifier => p.2.render) hfind
  exact ⟨p, hp, hk, hdev⟩

theorem mem_qualifiers_rebuild {s : Snapshot} {ds : List Descriptor} {k : String} :
    k ∈ (s.rebuild ds).qualifiers ↔ ∃ p ∈ s.assigned ds, p.2.render = k := by
  rw [rebuild_eq, mem_qualifiers_enterAll]

/-- Every rebuild gives a coherent snapshot, whatever the one before and the texts are: where two
qualifiers read the same, the device that is left still stands under its own. -/
theorem coherent_rebuild (s : Snapshot) (ds : List Descriptor) : Coherent (s.rebuild ds) where
  key_eq h := by
    obtain ⟨p, -, hk, rfl⟩ := of_get?_rebuild h
    exact hk
  id_key h := by
    obtain ⟨p, hp, hk, rfl⟩ := of_get?_rebuild h
    exact keys_rebuild_iff.2 ⟨p, hp, rfl, hk⟩
  key_found h := by
    obtain ⟨p, hp, -, hk⟩ := keys_rebuild_iff.1 h
    exact mem_qualifiers_iff.1 (mem_qualifiers_rebuild.2 ⟨p, hp, hk⟩)

namespace Coherent

variable {s : Snapshot} (hs : Coherent s)
include hs

theorem getById?_of_get? {k : String} {dev : Device} (h : s.get? k = some dev) :
    s.getById? dev.platformId = some dev := by
  rw [getById?, hs.id_key h, Option.bind_some, h]

theorem mem_toList_iff {dev : Device} :
    dev ∈ s.toList ↔ s.get? dev.qualifier.render = some dev := by
  rw [toList, mem_values_iff]
  constructor
  · intro ⟨k, hk⟩
    rw [hs.key_eq (k := k) hk]
    exact hk
  · exact fun h => ⟨_, h⟩

theorem toList_ids_nodup : (s.toList.map Device.platformId).Nodup := by
  rw [toList, values_eq_map, List.map_map, List.Nodup, List.pairwise_map]
  refine Std.TreeMap.distinct_keys_toList.imp_of_mem fun {a b} ha hb hne hid => hne ?_
  have ha := hs.id_key (Std.TreeMap.mem_toList_iff_getElem?_eq_some.1 ha)
  have hb := hs.id_key (Std.TreeMap.mem_toList_iff_getElem?_eq_some.1 hb)
  rw [show a.2.platformId = b.2.platformId from hid, hb, Option.some.injEq] at ha
  rw [ha]
  exact Std.ReflCmp.compare_self

/-- The devices of a snapshot with a source and a name and the new devices that ask for a number
under them have different platform ids, so there are numbers for all. -/
theorem numbers_suffice (ds : List Descriptor) (source name : String) :
    held (s.toList.map Device.qualifier) source name + asking (s.newcomers ds) source name ≤
      UInt32.size := by
  let old := s.toList.filter fun dev =>
    dev.qualifier.source = source ∧ dev.qualifier.name = name
  let new := (s.newcomers ds).filter fun d => d.source = source ∧ d.name = name
  have hold : held (s.toList.map Device.qualifier) source name ≤ old.length :=
    held_toList_le s source name
  have hnew : asking (s.newcomers ds) source name = new.length := List.countP_eq_length_filter
  have hnodup : (old.map Device.platformId ++ new.map Descriptor.platformId).Nodup := by
    rw [List.nodup_append']
    refine ⟨hs.toList_ids_nodup.sublist (List.filter_sublist.map _),
      (newcomers_ids_nodup s ds).sublist (List.filter_sublist.map _), ?_⟩
    -- A new device with the id of an old one of its source and name would keep its qualifier.
    intro id hold hnew
    obtain ⟨dev, hdev, rfl⟩ := List.mem_map.1 hold
    obtain ⟨d, hd, hid⟩ := List.mem_map.1 hnew
    simp only [old, List.mem_filter, decide_eq_true_eq] at hdev
    simp only [new, List.mem_filter, decide_eq_true_eq] at hd
    have hkept : s.kept? d = some dev.qualifier := by
      refine kept?_eq_some_iff.2 ⟨dev, ?_, rfl, ?_, ?_⟩
      · rw [hid]
        exact hs.getById?_of_get? (hs.mem_toList_iff.1 hdev.1)
      · rw [hdev.2.1, hd.2.1]
      · rw [hdev.2.2, hd.2.2]
    rw [(mem_newcomers_iff.1 hd.1).2] at hkept
    cases hkept
  have hcard := hnodup.length_le_card
  rw [List.length_append, List.length_map, List.length_map, ← FinEnum.card_eq_fintypeCard,
    FinEnum.card_Int32] at hcard
  rw [hnew]
  exact (Nat.add_le_add_right hold _).trans hcard

end Coherent

/-! ## Faithful snapshots -/

/-- A coherent snapshot in which a platform id leads to no device but the one that has it, and no
source has a slash. -/
structure Faithful (s : Snapshot) : Prop extends Coherent s where
  id_eq {id : Int32} {k : String} {dev : Device} : s.keys[id]? = some k → s.get? k = some dev →
    dev.platformId = id
  plain {k : String} {dev : Device} : s.get? k = some dev → PlainSource dev.qualifier.source

theorem faithful_initial : Faithful initial where
  toCoherent := coherent_initial
  id_eq h := by rw [keys_initial] at h; cases h
  plain h := by rw [get?_initial] at h; cases h

namespace Faithful

variable {s : Snapshot} (hs : Faithful s)
include hs

theorem getById?_iff {id : Int32} {dev : Device} :
    s.getById? id = some dev ↔ s.get? dev.qualifier.render = some dev ∧ dev.platformId = id := by
  simp only [getById?, Option.bind_eq_some_iff]
  constructor
  · intro ⟨k, hk, hdev⟩
    exact ⟨by rw [hs.key_eq hdev, hdev], hs.id_eq hk hdev⟩
  · rintro ⟨hdev, rfl⟩
    exact ⟨_, hs.id_key hdev, hdev⟩

/-- A device keeps its qualifier, or gets one that no device had. -/
theorem assigned_cases {ds : List Descriptor} {p : Descriptor × Qualifier}
    (h : p ∈ s.assigned ds) :
    s.kept? p.1 = some p.2 ∨ ∀ dev ∈ s.toList, dev.qualifier ≠ p.2 := by
  rw [assigned_eq, List.mem_append] at h
  rcases h with h | h
  · exact .inl (mem_survivors_iff.1 h).2
  · refine .inr fun dev hdev he => (assign_fresh (hs.numbers_suffice ds)).2 p h ?_
    exact List.mem_map.2 ⟨dev, hdev, he⟩

/-- A kept qualifier stands in the snapshot, under the platform id of the device that keeps it. -/
theorem kept?_eq_some {d : Descriptor} {q : Qualifier} (h : s.kept? d = some q) :
    ∃ dev, s.get? q.render = some dev ∧ dev.qualifier = q ∧ dev.platformId = d.platformId := by
  obtain ⟨dev, hdev, rfl, -⟩ := kept?_eq_some_iff.1 h
  obtain ⟨hget, hid⟩ := hs.getById?_iff.1 hdev
  exact ⟨dev, hget, rfl, hid⟩

theorem survivors_nodup (ds : List Descriptor) : ((s.survivors ds).map Prod.snd).Nodup := by
  have hids := survivors_ids_nodup s ds
  rw [List.Nodup, List.pairwise_map] at hids ⊢
  refine hids.imp_of_mem fun {a b} ha hb hne hq => hne ?_
  obtain ⟨dev, hdev, -, hid⟩ := hs.kept?_eq_some (mem_survivors_iff.1 ha).2
  obtain ⟨dev', hdev', -, hid'⟩ := hs.kept?_eq_some (mem_survivors_iff.1 hb).2
  rw [hq, hdev', Option.some.injEq] at hdev
  rw [← hid, ← hid', hdev]

theorem assigned_nodup (ds : List Descriptor) : ((s.assigned ds).map Prod.snd).Nodup := by
  obtain ⟨hnew, hfree⟩ := assign_fresh (hs.numbers_suffice ds)
  rw [assigned_eq, List.map_append, List.nodup_append']
  refine ⟨hs.survivors_nodup ds, hnew, fun q hold hq => ?_⟩
  obtain ⟨a, ha, rfl⟩ := List.mem_map.1 hold
  obtain ⟨b, hb, he⟩ := List.mem_map.1 hq
  obtain ⟨dev, hdev, hdq, -⟩ := hs.kept?_eq_some (mem_survivors_iff.1 ha).2
  refine hfree b hb (List.mem_map.2 ⟨dev, hs.mem_toList_iff.2 ?_, hdq.trans he.symm⟩)
  rw [hdq, hdev]

variable {ds : List Descriptor} (hds : ∀ d ∈ ds, PlainSource d.source)
include hds

omit hs in
theorem assigned_plain {p : Descriptor × Qualifier} (h : p ∈ s.assigned ds) :
    PlainSource p.2.source := by
  rw [(assigned_pair h).1]
  exact hds _ (mem_of_mem_firsts (mem_firsts_of_assigned h))

/-- No two devices of a rebuild have the same key. -/
theorem renders_nodup : ((s.assigned ds).map fun p => p.2.render).Nodup := by
  have h := hs.assigned_nodup ds
  rw [List.Nodup, List.pairwise_map] at h ⊢
  refine h.imp_of_mem fun ha hb hne hr => hne ?_
  exact Qualifier.render_injective (assigned_plain hds ha) (assigned_plain hds hb) hr

theorem get?_rebuild_iff {k : String} {dev : Device} :
    (s.rebuild ds).get? k = some dev ↔
      ∃ p ∈ s.assigned ds, p.2.render = k ∧ .ofDescriptor p.1 p.2 = dev := by
  rw [rebuild_eq, get?_enterAll_iff (hs.renders_nodup hds)]

/-- A rebuild from descriptions whose sources have no slash leads from a faithful snapshot to a
faithful one. -/
theorem rebuild : Faithful (s.rebuild ds) where
  toCoherent := coherent_rebuild s ds
  id_eq hkey hdev := by
    obtain ⟨p, hp, rfl, rfl⟩ := keys_rebuild_iff.1 hkey
    have hown : (s.rebuild ds).get? p.2.render = some (.ofDescriptor p.1 p.2) :=
      (hs.get?_rebuild_iff hds).2 ⟨p, hp, rfl, rfl⟩
    obtain rfl := Option.some.inj (hdev.symm.trans hown)
    rfl
  plain h := by
    obtain ⟨p, hp, rfl, rfl⟩ := (hs.get?_rebuild_iff hds).1 h
    exact assigned_plain hds hp

end Faithful

end InputHub.Snapshot
