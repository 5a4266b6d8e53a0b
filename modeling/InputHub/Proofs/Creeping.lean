import InputHub.Proofs.Searching
import InputHub.Proofs.Tables

/-!
# Numbers do not creep

A number that became free is not handed out in the same rescan, and a device keeps its number for as
long as it stays, so the numbers in use can have gaps and lie above the count of devices. They do
not climb for all that. While no list has more than `m` devices of one source and name, at most `m`
numbers are held and at most `m` devices ask for one, so that every number is less than `2 * m`:

* `Snapshot.assign_lt`: a new device gets a number below those held and asked for together;
* `Snapshot.Low` says that a snapshot holds few numbers and only low ones, and
  `Snapshot.Low.rebuild` that a rebuild preserves it;
* `Snapshot.numbers_stay_low`: so it is after every history, and a search that counts up in words of
  32 bits always ends before they are exhausted (`Snapshot.rebuild?`).
-/

namespace InputHub.Snapshot

/-! ## Devices of one source and name -/

/-- The platform ids whose first description in a list has a source and a name. -/
def idsNamed (ds : List Descriptor) (source name : String) : Finset Int32 :=
  (ds.map Descriptor.platformId).toFinset.filter fun id =>
    ∃ d ∈ firstWith? ds id, d.source = source ∧ d.name = name

/-- A list with at most `m` platform ids for every source and name. -/
def AtMost (m : Nat) (ds : List Descriptor) : Prop :=
  ∀ source name, (idsNamed ds source name).card ≤ m

/-- A request that brings at most `m` platform ids for every source and name. -/
def Request.AtMost (m : Nat) (r : Request) : Prop :=
  ∀ ds ∈ r.found?, Snapshot.AtMost m ds

theorem mem_idsNamed {ds : List Descriptor} {source name : String} {id : Int32} {d : Descriptor}
    (hd : firstWith? ds id = some d) (hsource : d.source = source) (hname : d.name = name) :
    id ∈ idsNamed ds source name := by
  refine Finset.mem_filter.2 ⟨?_, d, hd, hsource, hname⟩
  rw [List.mem_toFinset, ← firstWith?_platformId hd]
  exact List.mem_map_of_mem (List.mem_of_find?_eq_some hd)

theorem atMost_length (ds : List Descriptor) : AtMost ds.length ds := by
  intro source name
  refine (Finset.card_filter_le _ _).trans ((List.toFinset_card_le _).trans ?_)
  rw [List.length_map]

/-- A snapshot that fits a list holds no more numbers under a source and a name than the list has
platform ids with them. -/
theorem Fits.held_le {s : Snapshot} {ds : List Descriptor} (hs : Fits s ds)
    (source name : String) :
    held (s.toList.map Device.qualifier) source name ≤ (idsNamed ds source name).card := by
  let devs := s.toList.filter fun dev =>
    dev.qualifier.source = source ∧ dev.qualifier.name = name
  have hids : (devs.map Device.platformId).Nodup :=
    hs.toList_ids_nodup.sublist (List.filter_sublist.map _)
  have hsub : (devs.map Device.platformId).toFinset ⊆ idsNamed ds source name := by
    intro id hid
    obtain ⟨dev, hdev, rfl⟩ := List.mem_map.1 (List.mem_toFinset.1 hid)
    simp only [devs, List.mem_filter, decide_eq_true_eq] at hdev
    obtain ⟨d, hfirst, hshows⟩ := hs.described (hs.mem_toList_iff.1 hdev.1)
    exact mem_idsNamed hfirst (hshows.source.symm.trans hdev.2.1)
      (hshows.name.symm.trans hdev.2.2)
  calc
    held (s.toList.map Device.qualifier) source name ≤ devs.length := held_toList_le s source name
    _ = (devs.map Device.platformId).toFinset.card := by
      rw [List.toFinset_card_of_nodup hids, List.length_map]
    _ ≤ (idsNamed ds source name).card := Finset.card_le_card hsub

/-- No more new devices ask for a number than there are platform ids with their source and name. -/
theorem asking_newcomers_le (s : Snapshot) (ds : List Descriptor) (source name : String) :
    asking (s.newcomers ds) source name ≤ (idsNamed ds source name).card := by
  let new := (s.newcomers ds).filter fun d => d.source = source ∧ d.name = name
  have hids : (new.map Descriptor.platformId).Nodup :=
    (newcomers_ids_nodup s ds).sublist (List.filter_sublist.map _)
  have hsub : (new.map Descriptor.platformId).toFinset ⊆ idsNamed ds source name := by
    intro id hid
    obtain ⟨d, hd, rfl⟩ := List.mem_map.1 (List.mem_toFinset.1 hid)
    simp only [new, List.mem_filter, decide_eq_true_eq] at hd
    have hfirst : d ∈ firsts [] ds := (mem_newcomers_iff.1 hd.1).1
    exact mem_idsNamed (mem_firsts_iff.1 hfirst) hd.2.1 hd.2.2
  calc
    asking (s.newcomers ds) source name = new.length := List.countP_eq_length_filter
    _ = (new.map Descriptor.platformId).toFinset.card := by
      rw [List.toFinset_card_of_nodup hids, List.length_map]
    _ ≤ (idsNamed ds source name).card := Finset.card_le_card hsub

/-! ## Low numbers -/

/-- A new device gets a number below those that are held and asked for together. -/
theorem assign_lt {taken : List Qualifier} {ds : List Descriptor}
    (h : ∀ source name, held taken source name + asking ds source name ≤ UInt32.size)
    {p : Descriptor × Qualifier} (hp : p ∈ assign taken ds) :
    p.2.id.toNat < held taken p.1.source p.1.name + asking ds p.1.source p.1.name := by
  induction ds generalizing taken with
  | nil => simp [assign] at hp
  | cons d ds ih =>
    simp only [assign, List.mem_cons] at hp
    rcases hp with rfl | hp
    · have hsize := h d.source d.name
      rw [asking_cons_self] at hsize
      obtain ⟨n, hn, he, -, -⟩ := lowestFree_spec
        (show held taken d.source d.name < UInt32.size by omega)
      have hid : (lowestFree taken d.source d.name).id.toNat = n := by
        rw [he]
        exact UInt32.toNat_ofNat_of_lt' (by omega)
      show (lowestFree taken d.source d.name).id.toNat <
        held taken d.source d.name + asking (d :: ds) d.source d.name
      rw [hid, asking_cons_self]
      omega
    · have hshift := held_lowestFree_add_asking_le taken d ds
      have hlt := ih (fun source name => (hshift source name).trans (h source name)) hp
      exact hlt.trans_le (hshift p.1.source p.1.name)

/-- A coherent snapshot that holds at most `m` numbers for every source and name, all of them less
than `2 * m`. -/
structure Low (m : Nat) (s : Snapshot) : Prop extends Coherent s where
  few : ∀ source name, held (s.toList.map Device.qualifier) source name ≤ m
  low : ∀ dev ∈ s.toList, dev.qualifier.id.toNat < 2 * m

theorem low_initial (m : Nat) : Low m initial where
  toCoherent := coherent_initial
  few _ _ := Nat.zero_le m
  low _ hdev := nomatch hdev

namespace Low

variable {m : Nat} {s : Snapshot} (hs : Low m s) {ds : List Descriptor} (hds : AtMost m ds)
include hs hds

/-- A survivor has a number that was low before. A new device gets one below the `m` that are held
and the `m` that are asked for. -/
theorem assigned_lt {p : Descriptor × Qualifier} (hp : p ∈ s.assigned ds) :
    p.2.id.toNat < 2 * m := by
  rw [assigned_eq, List.mem_append] at hp
  rcases hp with hold | hnew
  · obtain ⟨-, hkept⟩ := mem_survivors_iff.1 hold
    obtain ⟨old, hold, hq, -⟩ := kept?_eq_some_iff.1 hkept
    obtain ⟨k, -, hget⟩ := Option.bind_eq_some_iff.1 hold
    have hmem : old ∈ s.toList := mem_values_iff.2 ⟨k, hget⟩
    rw [← hq]
    exact hs.low old hmem
  · have hlt := assign_lt (hs.numbers_suffice ds) hnew
    have hheld := hs.few p.1.source p.1.name
    have hask := (asking_newcomers_le s ds p.1.source p.1.name).trans
      (hds p.1.source p.1.name)
    omega

theorem rebuild : Low m (s.rebuild ds) where
  toCoherent := coherent_rebuild s ds
  few source name := ((fits_rebuild s ds).held_le source name).trans (hds source name)
  low dev hdev := by
    obtain ⟨k, hget⟩ := mem_values_iff.1 hdev
    obtain ⟨p, hp, -, rfl⟩ := of_get?_rebuild hget
    exact hs.assigned_lt hds hp

end Low

theorem Low.after {m : Nat} {s : Snapshot} (hs : Low m s) {r : Request} (hr : r.AtMost m) :
    Low m (s.after r) := by
  rw [after_eq]
  cases h : r.found? with
  | none => exact hs
  | some ds => exact hs.rebuild (hr ds h)

theorem low_afterAll {m : Nat} {history : List Request} (h : ∀ r ∈ history, r.AtMost m) :
    Low m (afterAll history) := by
  induction history using List.reverseRecOn with
  | nil => exact low_initial m
  | append_singleton history r ih =>
    rw [afterAll_concat]
    exact (ih fun r' hr' => h r' (List.mem_append_left _ hr')).after (h r (by simp))

/-! ## Counting in words of 32 bits -/

/-- Gives new devices their qualifiers by counting, unless a search gives up. -/
def assign? (taken : List Qualifier) : List Descriptor → Option (List (Descriptor × Qualifier))
  | [] => some []
  | d :: ds =>
    (Search.result? taken d.source d.name (.trying 0)).bind fun q =>
      (assign? (q :: taken) ds).map ((d, q) :: ·)

/-- The next snapshot when numbers are found by counting, unless a search gives up. -/
def rebuild? (s : Snapshot) (ds : List Descriptor) : Option Snapshot :=
  (assign? (s.toList.map Device.qualifier) (s.newcomers ds)).map fun new =>
    (s.survivors ds ++ new).foldl (fun t p => t.enter p.1 p.2)
      { initial with generation := s.generation + 1 }

theorem assign?_eq {taken : List Qualifier} {ds : List Descriptor}
    (h : ∀ source name, held taken source name + asking ds source name ≤ UInt32.size) :
    assign? taken ds = some (assign taken ds) := by
  induction ds generalizing taken with
  | nil => rfl
  | cons d ds ih =>
    have hsize := h d.source d.name
    rw [asking_cons_self] at hsize
    have hrest := ih fun source name =>
      (held_lowestFree_add_asking_le taken d ds source name).trans (h source name)
    rw [assign?, result?_eq (by omega), Option.bind_some, hrest, Option.map_some, assign]

/-- From a coherent snapshot no search gives up. -/
theorem Coherent.rebuild?_eq {s : Snapshot} (hs : Coherent s) (ds : List Descriptor) :
    s.rebuild? ds = some (s.rebuild ds) := by
  rw [rebuild?, assign?_eq (hs.numbers_suffice ds), Option.map_some, ← assigned_eq]
  rfl

/-! ## Every history -/

/-- While no list has more than `m` platform ids for one source and name, every number that is given
or kept in any rescan is less than `2 * m`, however long the history is, and no search for one runs
out of words of 32 bits. -/
theorem numbers_stay_low {m : Nat} {history : List Request} (h : ∀ r ∈ history, r.AtMost m) :
    (∀ dev ∈ (afterAll history).toList, dev.qualifier.id.toNat < 2 * m) ∧
    ∀ before r rest, history = before ++ r :: rest → ∀ ds ∈ r.found?,
      (∀ p ∈ (afterAll before).assigned ds, p.2.id.toNat < 2 * m) ∧
      (afterAll before).rebuild? ds = some ((afterAll before).rebuild ds) := by
  refine ⟨(low_afterAll h).low, ?_⟩
  rintro before r rest rfl ds hds
  have hbefore : Low m (afterAll before) :=
    low_afterAll fun r' hr' => h r' (List.mem_append_left _ hr')
  exact ⟨fun p hp => hbefore.assigned_lt (h r (by simp) ds hds) hp, hbefore.rebuild?_eq ds⟩

/-- Where every rescan finds another pad in place of the one before, the numbers alternate: the one
just freed is passed over, and the one freed before it is given again. -/
theorem numbers_stay_low_swapped :
    let swaps : List Request :=
      [.rebuild [.bare 1 "Mock" "Pad"], .rebuild [.bare 2 "Mock" "Pad"],
        .refresh (.error (.platform "away")), .rebuild [.bare 3 "Mock" "Pad"]]
    (afterAll (swaps.take 1)).qualifiers = ["Mock/0/Pad"] ∧
    (afterAll (swaps.take 2)).qualifiers = ["Mock/1/Pad"] ∧
    (afterAll swaps).qualifiers = ["Mock/0/Pad"] ∧
    ∀ before r rest, swaps = before ++ r :: rest → ∀ ds ∈ r.found?,
      (∀ p ∈ (afterAll before).assigned ds, p.2.id.toNat < 2 * 1) ∧
      (afterAll before).rebuild? ds = some ((afterAll before).rebuild ds) := by
  intro swaps
  have hone : ∀ r ∈ swaps, r.AtMost 1 := by
    intro r hr ds hds
    have hlength : ds.length = 1 := by
      simp only [swaps, List.mem_cons, List.not_mem_nil, or_false] at hr
      rcases hr with rfl | rfl | rfl | rfl <;> cases hds <;> rfl
    rw [← hlength]
    exact atMost_length ds
  exact ⟨by decide +kernel, by decide +kernel, by decide +kernel, (numbers_stay_low hone).2⟩

end InputHub.Snapshot
