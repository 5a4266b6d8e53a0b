import InputHub.Proofs.Rebuilding

/-!
# Registries over time

A registry starts empty and lives through requests: rebuilds from a list, and refreshes from what a
platform reports, which may fail. Where no source has a slash:

* `Snapshot.afterAll_imageOf`: after a successful request the registry is an exact image of the list
  of that request, whatever came before;
* `Snapshot.stale_key_vanishes_first`: between two devices under one key there is a snapshot without
  the key, so a key that was looked up earlier never leads to another device unnoticed.

Both rest on `Snapshot.Faithful`, which every request preserves (`Snapshot.faithful_afterAll`).
-/

namespace InputHub

/-- A device has everything that a description says. -/
structure Device.Shows (dev : Device) (d : Descriptor) : Prop where
  platformId : dev.platformId = d.platformId
  source : dev.qualifier.source = d.source
  name : dev.qualifier.name = d.name
  capabilities : dev.capabilities = d.capabilities
  sensorAxes : dev.sensorAxes = d.sensorAxes
  vibration : dev.vibration = d.vibration

namespace Snapshot

/-! ## The image of a list -/

/-- A snapshot is the image of a list of descriptions: it has one device for each platform id of the
list, which shows the first description with that id and stands under the text of its qualifier, and
no device for any other platform id. -/
structure ImageOf (s : Snapshot) (ds : List Descriptor) : Prop where
  size_eq : s.size = (ds.map Descriptor.platformId).toFinset.card
  found {id : Int32} {d : Descriptor} : firstWith? ds id = some d →
    ∃ dev, s.getById? id = some dev ∧ dev.platformId = id ∧ dev.Shows d ∧
      s.get? dev.qualifier.render = some dev
  missing {id : Int32} : (∀ d ∈ ds, d.platformId ≠ id) → s.getById? id = none

theorem shows_of_assigned {s : Snapshot} {ds : List Descriptor} {p : Descriptor × Qualifier}
    (h : p ∈ s.assigned ds) : (Device.ofDescriptor p.1 p.2).Shows p.1 :=
  ⟨rfl, (assigned_pair h).1, (assigned_pair h).2, rfl, rfl, rfl⟩

theorem mem_firsts_ids_iff {ds : List Descriptor} {id : Int32} :
    id ∈ (firsts [] ds).map Descriptor.platformId ↔ id ∈ ds.map Descriptor.platformId := by
  simp only [List.mem_map]
  constructor
  · intro ⟨d, hd, hid⟩
    exact ⟨d, mem_of_mem_firsts hd, hid⟩
  · rintro ⟨e, he, rfl⟩
    obtain ⟨d, hd⟩ := exists_firstWith? he
    have hid : d.platformId = e.platformId := firstWith?_platformId hd
    exact ⟨d, mem_firsts_iff.2 (hid ▸ hd), hid⟩

/-- There are as many devices as platform ids when no two of them have the same key. -/
theorem size_rebuild {s : Snapshot} {ds : List Descriptor}
    (h : ((s.assigned ds).map fun p => p.2.render).Nodup) :
    (s.rebuild ds).size = (ds.map Descriptor.platformId).toFinset.card := by
  have hids : (ds.map Descriptor.platformId).toFinset =
      ((firsts [] ds).map Descriptor.platformId).toFinset := by
    ext id
    rw [List.mem_toFinset, List.mem_toFinset, mem_firsts_ids_iff]
  calc
    (s.rebuild ds).size = ((s.assigned ds).map fun p => p.2.render).toFinset.card := by
      rw [rebuild_eq, size_enterAll]
    _ = ((s.assigned ds).map Prod.fst).length := by
      rw [List.toFinset_card_of_nodup h, List.length_map, List.length_map]
    _ = ((firsts [] ds).map Descriptor.platformId).toFinset.card := by
      rw [List.toFinset_card_of_nodup (firsts_nodup [] ds), (assigned_perm s ds).length_eq,
        List.length_map]
    _ = (ds.map Descriptor.platformId).toFinset.card := by rw [hids]

/-- A rebuild from a faithful snapshot gives the image of its list. -/
theorem Faithful.imageOf_rebuild {s : Snapshot} (hs : Faithful s) {ds : List Descriptor}
    (hds : ∀ d ∈ ds, PlainSource d.source) : (s.rebuild ds).ImageOf ds where
  size_eq := size_rebuild (hs.renders_nodup hds)
  found {id d} hfirst := by
    have hid : d.platformId = id := firstWith?_platformId hfirst
    obtain ⟨q, hq⟩ := exists_assigned (s := s) (mem_firsts_iff.2 (hid ▸ hfirst))
    have hget : (s.rebuild ds).get? q.render = some (.ofDescriptor d q) :=
      (hs.get?_rebuild_iff hds).2 ⟨(d, q), hq, rfl, rfl⟩
    refine ⟨.ofDescriptor d q, ?_, hid, shows_of_assigned hq, hget⟩
    exact (hs.rebuild hds).getById?_iff.2 ⟨hget, hid⟩
  missing := getById?_rebuild_eq_none

/-! ## Requests -/

/-- A request to a registry: to rebuild from a list, or to refresh from what a platform reports,
whether or not somebody is told of the snapshot that this installs. -/
inductive Request where
  | rebuild (found : List Descriptor)
  | refresh (report : Except Error (List Descriptor))

/-- The list that a request installs, if it succeeds. -/
def Request.found? : Request → Option (List Descriptor)
  | rebuild found => some found
  | refresh report => report.toOption

/-- A request that brings no source with a slash. -/
def Request.Plain (r : Request) : Prop :=
  ∀ ds ∈ r.found?, ∀ d ∈ ds, PlainSource d.source

instance (r : Request) : Decidable r.Plain :=
  inferInstanceAs (Decidable (∀ ds ∈ r.found?, ∀ d ∈ ds, PlainSource d.source))

/-- The snapshot after a request. A failed refresh leaves the one before. -/
def after (s : Snapshot) : Request → Snapshot
  | .rebuild found => s.rebuild found
  | .refresh report =>
    match s.refresh report with
    | .ok next => next
    | .error _ => s

/-- The snapshot of a registry that has lived through some requests. -/
def afterAll (history : List Request) : Snapshot := history.foldl after initial

theorem after_eq (s : Snapshot) (r : Request) : s.after r = (r.found?.map s.rebuild).getD s := by
  rcases r with found | (e | found) <;> rfl

theorem afterAll_concat (history : List Request) (r : Request) :
    afterAll (history ++ [r]) = (afterAll history).after r := by
  simp [afterAll]

theorem Faithful.after {s : Snapshot} (hs : Faithful s) {r : Request} (hr : r.Plain) :
    Faithful (s.after r) := by
  rw [after_eq]
  cases h : r.found? with
  | none => exact hs
  | some ds => exact hs.rebuild (hr ds h)

/-- Every registry that never saw a source with a slash is faithful. -/
theorem faithful_afterAll {history : List Request} (h : ∀ r ∈ history, r.Plain) :
    Faithful (afterAll history) := by
  induction history using List.reverseRecOn with
  | nil => exact faithful_initial
  | append_singleton history r ih =>
    rw [afterAll_concat]
    exact (ih fun r' hr' => h r' (List.mem_append_left _ hr')).after (h r (by simp))

/-- After a successful request the registry is the image of the list that it brought. -/
theorem afterAll_imageOf {history : List Request} {last : Request} {ds : List Descriptor}
    (hplain : ∀ r ∈ history ++ [last], r.Plain) (hlast : last.found? = some ds) :
    (afterAll (history ++ [last])).ImageOf ds := by
  have hs : Faithful (afterAll history) :=
    faithful_afterAll fun r hr => hplain r (List.mem_append_left _ hr)
  rw [afterAll_concat, after_eq, hlast]
  exact hs.imageOf_rebuild (hplain last (by simp) ds hlast)

/-- A device that keeps its qualifier over a failed refresh and a change of its capabilities, in a
list that has its platform id twice and brings another device of its name. -/
theorem afterAll_imageOf_crowded :
    (afterAll ([.rebuild [.bare 7 "Mock" "Pad"], .refresh (.error (.io "gone"))] ++
      [.refresh (.ok [.bare 3 "Mock" "Pad", (Descriptor.bare 7 "Mock" "Pad").withCapabilities .keys,
        .bare 7 "Mock" "Ghost"])])).ImageOf
      [.bare 3 "Mock" "Pad", (Descriptor.bare 7 "Mock" "Pad").withCapabilities .keys,
        .bare 7 "Mock" "Ghost"] :=
  afterAll_imageOf (by decide) rfl

/-! ## Keys of devices that are gone -/

/-- A key that stands in a snapshot and in the next one stands for the same device. -/
theorem Faithful.same_id_of_get? {s : Snapshot} (hs : Faithful s) {ds : List Descriptor}
    (hds : ∀ d ∈ ds, PlainSource d.source) {k : String} {a b : Device} (ha : s.get? k = some a)
    (hb : (s.rebuild ds).get? k = some b) : b.platformId = a.platformId := by
  obtain ⟨⟨d, q⟩, hp, rfl, rfl⟩ := (hs.get?_rebuild_iff hds).1 hb
  rcases hs.assigned_cases hp with hkept | hfree
  · obtain ⟨dev, hdev, -, hid⟩ := hs.kept?_eq_some hkept
    rw [ha, Option.some.injEq] at hdev
    rw [hdev, hid]
    rfl
  · -- A new qualifier is none of the snapshot, but it would read like that of the device there.
    have hread : a.qualifier.render = q.render := hs.key_eq ha
    refine absurd ?_ (hfree a (hs.mem_toList_iff.2 (by rw [hread]; exact ha)))
    exact Qualifier.render_injective (hs.plain ha) (Faithful.assigned_plain hds hp) hread

/-- The snapshot after the first `n` rescans of a row, all of them successful. -/
def nth (row : List (List Descriptor)) (n : Nat) : Snapshot :=
  afterAll ((row.take n).map .rebuild)

theorem nth_succ (row : List (List Descriptor)) (n : Nat) :
    nth row (n + 1) = ((row[n]?).map (nth row n).rebuild).getD (nth row n) := by
  simp only [nth, afterAll, List.foldl_map, List.take_add_one, List.foldl_append]
  cases row[n]? <;> rfl

theorem faithful_nth {row : List (List Descriptor)}
    (h : ∀ ds ∈ row, ∀ d ∈ ds, PlainSource d.source) (n : Nat) : Faithful (nth row n) := by
  refine faithful_afterAll fun r hr ds hds => ?_
  obtain ⟨ds', hds', rfl⟩ := List.mem_map.1 hr
  obtain rfl : ds' = ds := by simpa [Request.found?] using hds
  exact h ds' (List.mem_of_mem_take hds')

theorem nth_same_id {row : List (List Descriptor)}
    (h : ∀ ds ∈ row, ∀ d ∈ ds, PlainSource d.source) {n : Nat} {k : String} {a b : Device}
    (ha : (nth row n).get? k = some a) (hb : (nth row (n + 1)).get? k = some b) :
    b.platformId = a.platformId := by
  rw [nth_succ] at hb
  cases hds : row[n]? with
  | none =>
    rw [hds, Option.map_none, Option.getD_none, ha, Option.some.injEq] at hb
    rw [hb]
  | some ds =>
    rw [hds, Option.map_some, Option.getD_some] at hb
    exact (faithful_nth h n).same_id_of_get? (h ds (List.mem_of_getElem? hds)) ha hb

/-- A key under which one device stood leads to another one only after a snapshot without it. -/
theorem stale_key_vanishes_first {row : List (List Descriptor)}
    (hplain : ∀ ds ∈ row, ∀ d ∈ ds, PlainSource d.source) {i j : Nat} (hij : i < j)
    {k : String} {a b : Device} (ha : (nth row i).get? k = some a)
    (hb : (nth row j).get? k = some b) (hne : a.platformId ≠ b.platformId) :
    ∃ m, i < m ∧ m < j ∧ (nth row m).contains k = false := by
  by_contra hall
  push Not at hall
  -- If the key never went away, the same platform id would stand under it all the time.
  have hsame : ∀ m, i ≤ m → m ≤ j → ∀ dev, (nth row m).get? k = some dev →
      dev.platformId = a.platformId := by
    intro m him
    induction m, him using Nat.le_induction with
    | base =>
      intro _ dev hdev
      rw [ha, Option.some.injEq] at hdev
      rw [hdev]
    | succ m him ih =>
      intro hmj dev hdev
      obtain ⟨c, hc⟩ : ∃ c, (nth row m).get? k = some c := by
        rcases Nat.eq_or_lt_of_le him with rfl | hlt
        · exact ⟨a, ha⟩
        · have hin := hall m hlt hmj
          rw [ne_eq, Bool.not_eq_false, contains, Std.TreeMap.contains_iff_mem,
            Std.TreeMap.mem_iff_isSome_getElem?] at hin
          exact Option.isSome_iff_exists.1 hin
      rw [nth_same_id hplain hc hdev]
      exact ih (Nat.le_of_succ_le hmj) c hc
  exact hne (hsame j hij.le le_rfl b hb).symm

/-- A pad is detached, another one is attached in the same rescan, and a third one gets the key of
the first only later. -/
theorem stale_key_vanishes_at_third_pad : ∃ m, 1 < m ∧ m < 3 ∧
    (nth [[.bare 1 "Mock" "Pad"], [.bare 2 "Mock" "Pad"],
      [.bare 2 "Mock" "Pad", .bare 3 "Mock" "Pad"]] m).contains "Mock/0/Pad" = false :=
  stale_key_vanishes_first (a := ⟨⟨"Mock", 0, "Pad"⟩, 1, .none, [], none⟩)
    (b := ⟨⟨"Mock", 0, "Pad"⟩, 3, .none, [], none⟩) (by decide) (by decide) (by decide +kernel)
    (by decide +kernel) (by decide)

end Snapshot

end InputHub
