import InputHub.Proofs.Routing

/-!
# The two tables of a registry

A registry finds devices by the text of their qualifier, and the texts by platform id. Two
qualifiers can read the same where sources or names have slashes. The device entered last then takes
the place of the other one in the first table, while both platform ids stay in the second. What is
left fits together all the same, and the next rescan starts from it:

* `Snapshot.Fits` says that a snapshot is coherent and that its devices are described by a list;
* `Snapshot.Fits.after`: every request preserves it, whatever the snapshot before has lost;
* `Snapshot.tables_fit`: so after any history every key leads to a device that the last successful
  rescan reported, under the text of its own qualifier, and no platform id and no qualifier belongs
  to two devices.
-/

namespace InputHub.Snapshot

/-! ## Requests one by one -/

theorem lastRescan?_concat (history : List Request) (r : Request) :
    lastRescan? (history ++ [r]) =
      (r.found?.map fun ds => (history, ds)).or (lastRescan? history) := by
  induction history with
  | nil =>
    rw [List.nil_append, lastRescan?, lastRescan?]
    cases r.found? <;> rfl
  | cons r' rs ih =>
    rw [List.cons_append, lastRescan?, lastRescan?, ih]
    cases r.found? <;> rfl

/-- A successful request replaces the list that was reported before it. -/
theorem reported_concat (history : List Request) (r : Request) :
    reported (history ++ [r]) = r.found?.getD (reported history) := by
  rw [reported, lastRescan?_concat, reported]
  cases r.found? <;> rfl

/-! ## Snapshots that fit a list -/

/-- A snapshot that is coherent and whose devices are described by a list, each by the first
description with its platform id. -/
structure Fits (s : Snapshot) (ds : List Descriptor) : Prop extends Coherent s where
  described {k : String} {dev : Device} : s.get? k = some dev →
    ∃ d, firstWith? ds dev.platformId = some d ∧ dev.Shows d

theorem fits_initial : Fits initial [] where
  toCoherent := coherent_initial
  described h := by rw [get?_initial] at h; cases h

/-- A rebuild fits its list. Nothing is asked of the snapshot before. -/
theorem fits_rebuild (s : Snapshot) (ds : List Descriptor) : Fits (s.rebuild ds) ds where
  toCoherent := coherent_rebuild s ds
  described h := by
    obtain ⟨p, hp, -, rfl⟩ := of_get?_rebuild h
    have hfirst : p.1 ∈ firsts [] ds := mem_firsts_of_assigned hp
    exact ⟨p.1, mem_firsts_iff.1 hfirst, shows_of_assigned hp⟩

theorem Fits.after {s : Snapshot} {ds : List Descriptor} (hs : Fits s ds) (r : Request) :
    Fits (s.after r) (r.found?.getD ds) := by
  rw [after_eq]
  cases r.found? with
  | none => exact hs
  | some found => exact fits_rebuild s found

/-- A registry fits the list that was reported last. -/
theorem fits_afterAll (history : List Request) : Fits (afterAll history) (reported history) := by
  induction history using List.reverseRecOn with
  | nil => exact fits_initial
  | append_singleton history r ih =>
    rw [afterAll_concat, reported_concat]
    exact ih.after r

/-- The devices of a coherent snapshot have different qualifiers: their keys differ. -/
theorem Coherent.toList_qualifiers_nodup {s : Snapshot} (hs : Coherent s) :
    (s.toList.map Device.qualifier).Nodup := by
  rw [toList, values_eq_map, List.map_map, List.Nodup, List.pairwise_map]
  refine Std.TreeMap.distinct_keys_toList.imp_of_mem fun {a b} ha hb hne hq => hne ?_
  have ha := hs.key_eq (Std.TreeMap.mem_toList_iff_getElem?_eq_some.1 ha)
  have hb := hs.key_eq (Std.TreeMap.mem_toList_iff_getElem?_eq_some.1 hb)
  have hread : a.1 = b.1 := by rw [← ha, show a.2.qualifier = b.2.qualifier from hq, hb]
  rw [hread]
  exact Std.ReflCmp.compare_self

/-! ## Every history -/

/-- After any history of a registry, over any texts: every device stands under the text of its own
qualifier, every platform id leads to a key that is there, and that of a device leads to its own; so
no two devices have the same platform id or the same qualifier. All devices are described by the
list of the last successful request, and every key that is listed leads to one of them. -/
theorem tables_fit (history : List Request) :
    (∀ k dev, (afterAll history).get? k = some dev → dev.qualifier.render = k) ∧
    (∀ (id : Int32) k, (afterAll history).keys[id]? = some k →
      (afterAll history).contains k = true) ∧
    (∀ k dev, (afterAll history).get? k = some dev →
      (afterAll history).keys[dev.platformId]? = some k) ∧
    ((afterAll history).toList.map Device.platformId).Nodup ∧
    ((afterAll history).toList.map Device.qualifier).Nodup ∧
    (∀ dev ∈ (afterAll history).toList, ∃ d ∈ reported history, dev.Shows d) ∧
    ∀ k ∈ (afterAll history).qualifiers, ∃ dev, (afterAll history).get? k = some dev ∧
      dev.qualifier.render = k ∧ ∃ d ∈ reported history, dev.Shows d := by
  have hfits : Fits (afterAll history) (reported history) := fits_afterAll history
  have hdescribed {k : String} {dev : Device} (hdev : (afterAll history).get? k = some dev) :
      ∃ d ∈ reported history, dev.Shows d := by
    obtain ⟨d, hfirst, hshows⟩ := hfits.described hdev
    exact ⟨d, List.mem_of_find?_eq_some hfirst, hshows⟩
  refine ⟨fun _ _ => hfits.key_eq, fun id k hk => ?_, fun _ _ => hfits.id_key,
    hfits.toList_ids_nodup, hfits.toList_qualifiers_nodup, fun dev hdev => ?_, fun k hk => ?_⟩
  · obtain ⟨dev, hdev⟩ := hfits.key_found hk
    rw [contains, Std.TreeMap.contains_iff_mem, Std.TreeMap.mem_iff_isSome_getElem?]
    exact Option.isSome_iff_exists.2 ⟨dev, hdev⟩
  · exact hdescribed (hfits.mem_toList_iff.1 hdev)
  · obtain ⟨dev, hdev⟩ := mem_qualifiers_iff.1 hk
    exact ⟨dev, hdev, hfits.key_eq hdev, hdescribed hdev⟩

/-- A ball, and a tablet whose qualifier reads the same: one key is left, to which both platform ids
lead. -/
example :
    let s := afterAll [.rebuild [.bare 1 "hid/0" "ball"],
      .rebuild [.bare 1 "hid/0" "ball", .bare 2 "hid" "0/ball"]]
    s.qualifiers = ["hid/0/0/ball"] ∧
      s.keys.toList = [(1, "hid/0/0/ball"), (2, "hid/0/0/ball")] := by
  decide +kernel

end InputHub.Snapshot
