import Mathlib.Data.Finset.Sort
import Mathlib.Data.Nat.Nth
import Mathlib.Order.Bounds.Basic
import InputHub.Proofs.Creeping
import InputHub.Proofs.Keeping

/-!
# Which numbers new devices get

New devices are served in ascending order of their platform ids, each with the least number that is
free for its source and name. Every number that is given is one free number less, so the devices of
one source and name get the free numbers in their order, whatever gaps there are:

* `Snapshot.nth_unused_cons`: once the first free number is given, the free numbers move up by one;
* `Snapshot.assign_numbers`: the numbers given for one source and name are the first free ones;
* `Snapshot.Faithful.sort_fresh`: the devices that get them are those which the snapshot before does
  not hold, in ascending order of platform ids;
* `Snapshot.fresh_fill_gaps`: so it is after every history, and other devices do not matter.
-/

namespace InputHub.Snapshot

/-! ## Free numbers -/

/-- No qualifier of a list has the number with a source and a name. -/
def Unused (taken : List Qualifier) (source name : String) (n : Nat) : Prop :=
  ∀ q ∈ taken, q.source = source → q.name = name → q.id.toNat ≠ n

instance (taken : List Qualifier) (source name : String) :
    DecidablePred (Unused taken source name) := fun n =>
  inferInstanceAs (Decidable (∀ q ∈ taken, q.source = source → q.name = name → q.id.toNat ≠ n))

theorem unused_of_size_le (taken : List Qualifier) (source name : String) {n : Nat}
    (h : UInt32.size ≤ n) : Unused taken source name n := by
  intro q _ _ _ he
  have := q.id.toNat_lt_size
  omega

/-- There are always free numbers, since only words of 32 bits are given. -/
theorem infinite_unused (taken : List Qualifier) (source name : String) :
    (Set.ofPred (Unused taken source name)).Infinite := by
  refine Set.infinite_of_forall_exists_gt fun n => ⟨n + UInt32.size, ?_, ?_⟩
  · exact unused_of_size_le taken source name (Nat.le_add_left ..)
  · exact Nat.lt_add_of_pos_right (by decide)

theorem unused_iff_not_mem {taken : List Qualifier} {source name : String} {n : Nat}
    (hn : n < UInt32.size) :
    Unused taken source name n ↔ (⟨source, UInt32.ofNat n, name⟩ : Qualifier) ∉ taken := by
  constructor
  · intro h hmem
    exact h _ hmem rfl rfl (UInt32.toNat_ofNat_of_lt' hn)
  · rintro h ⟨_, id, _⟩ hq rfl rfl rfl
    rw [UInt32.ofNat_toNat] at h
    exact h hq

/-- The number that is found is the first free one. -/
theorem lowestFree_id {taken : List Qualifier} {source name : String}
    (h : held taken source name < UInt32.size) :
    (lowestFree taken source name).id.toNat = Nat.nth (Unused taken source name) 0 := by
  classical
  obtain ⟨m, hm, he, hfree, hbelow⟩ := lowestFree_spec h
  have hsize : m < UInt32.size := hm.trans_lt h
  have hunused : Unused taken source name m := (unused_iff_not_mem hsize).2 hfree
  rw [he, Nat.nth_zero_of_exists ⟨m, hunused⟩]
  show (UInt32.ofNat m).toNat = _
  rw [UInt32.toNat_ofNat_of_lt' hsize, eq_comm, Nat.find_eq_iff]
  refine ⟨hunused, fun k hk hk' => ?_⟩
  exact (unused_iff_not_mem (hk.trans hsize)).1 hk' (hbelow k hk)

/-- A qualifier takes its own number away from its own source and name. -/
theorem unused_cons_iff {q : Qualifier} {taken : List Qualifier} {source name : String} {n : Nat} :
    Unused (q :: taken) source name n ↔
      (q.source = source → q.name = name → q.id.toNat ≠ n) ∧ Unused taken source name n := by
  simp only [Unused, List.forall_mem_cons]

theorem unused_cons_of_ne {q : Qualifier} {taken : List Qualifier} {source name : String}
    (h : ¬ (q.source = source ∧ q.name = name)) :
    Unused (q :: taken) source name = Unused taken source name := by
  funext n
  rw [unused_cons_iff, eq_iff_iff, and_iff_right]
  exact fun hsource hname => absurd ⟨hsource, hname⟩ h

/-- Once the first free number is given, the next one is the first. -/
theorem nth_unused_cons {q : Qualifier} {taken : List Qualifier} {source name : String}
    (hsource : q.source = source) (hname : q.name = name)
    (hid : q.id.toNat = Nat.nth (Unused taken source name) 0) (k : Nat) :
    Nat.nth (Unused (q :: taken) source name) k = Nat.nth (Unused taken source name) (k + 1) := by
  have hinf := infinite_unused taken source name
  have hmono := Nat.nth_strictMono hinf
  -- The free numbers without the first one are what `nth` runs through from 1 on.
  have hrange : ∀ n, Unused (q :: taken) source name n →
      n ∈ Set.range fun k => Nat.nth (Unused taken source name) (k + 1) := by
    intro n hn
    obtain ⟨hne, hn⟩ := unused_cons_iff.1 hn
    have hmem : n ∈ Set.ofPred (Unused taken source name) := hn
    obtain ⟨k, rfl⟩ := Nat.subset_range_nth hmem
    cases k with
    | zero => exact absurd hid (hne hsource hname)
    | succ k => exact ⟨k, rfl⟩
  have hall : (fun k => Unused (q :: taken) source name
      (Nat.nth (Unused taken source name) (k + 1))) = fun _ => True := by
    funext k
    refine eq_true (unused_cons_iff.2 ⟨fun _ _ => ?_, Nat.nth_mem_of_infinite hinf (k + 1)⟩)
    rw [hid]
    exact (hmono (Nat.succ_pos k)).ne
  have hcomp := Nat.nth_comp_of_strictMono (p := Unused (q :: taken) source name) (n := k)
    (f := fun k => Nat.nth (Unused taken source name) (k + 1))
    (fun a b hab => hmono (Nat.succ_lt_succ hab)) hrange
    fun hfin => absurd hfin (infinite_unused (q :: taken) source name)
  rw [hall, Nat.nth_true] at hcomp
  exact hcomp.symm

/-! ## A list of new devices -/

/-- The members of an assignment with a source and a name. -/
def ofPair (ps : List (Descriptor × Qualifier)) (source name : String) :
    List (Descriptor × Qualifier) :=
  ps.filter fun p => p.1.source = source ∧ p.1.name = name

/-- The numbers that are given for a source and a name are the first free ones in their order. -/
theorem assign_numbers {taken : List Qualifier} {ds : List Descriptor}
    (h : ∀ source name, held taken source name + asking ds source name ≤ UInt32.size)
    (source name : String) :
    (ofPair (assign taken ds) source name).map (fun p => p.2.id.toNat) =
      (List.range (asking ds source name)).map (Nat.nth (Unused taken source name)) := by
  induction ds generalizing taken with
  | nil => rfl
  | cons d ds ih =>
    have hpair := lowestFree_pair taken d.source d.name
    have hrest := ih fun source name =>
      (held_lowestFree_add_asking_le taken d ds source name).trans (h source name)
    rw [ofPair] at hrest
    rw [ofPair, assign, List.filter_cons]
    by_cases hd : d.source = source ∧ d.name = name
    · obtain ⟨rfl, rfl⟩ := hd
      have hsize := h d.source d.name
      rw [asking_cons_self] at hsize
      have hid := lowestFree_id (show held taken d.source d.name < UInt32.size by omega)
      rw [if_pos (by simp), List.map_cons, hrest, asking_cons_self, List.range_succ_eq_map,
        List.map_cons, List.map_map, hid]
      refine congrArg _ (List.map_congr_left fun k _ => ?_)
      exact nth_unused_cons hpair.1 hpair.2 hid k
    · have hasking : asking (d :: ds) source name = asking ds source name := by
        simp [asking, hd]
      rw [if_neg (by simpa using hd), hrest, hasking, unused_cons_of_ne]
      rwa [hpair.1, hpair.2]

theorem map_fst_ofPair_assign (taken : List Qualifier) (ds : List Descriptor)
    (source name : String) :
    (ofPair (assign taken ds) source name).map Prod.fst =
      ds.filter fun d => d.source = source ∧ d.name = name := by
  conv_rhs => rw [← map_fst_assign taken ds]
  rw [List.filter_map]
  rfl

/-! ## Devices that a snapshot does not hold -/

/-- The platform ids of a list whose first description has a source and a name, and which no device
of a snapshot has with them. -/
def fresh (s : Snapshot) (ds : List Descriptor) (source name : String) : Finset Int32 :=
  (idsNamed ds source name).filter fun id => ∀ old ∈ s.toList,
    old.platformId = id → ¬ (old.qualifier.source = source ∧ old.qualifier.name = name)

theorem mem_fresh_iff {s : Snapshot} {ds : List Descriptor} {source name : String} {id : Int32} :
    id ∈ s.fresh ds source name ↔
      (∃ d, firstWith? ds id = some d ∧ d.source = source ∧ d.name = name) ∧
      ∀ old ∈ s.toList, old.platformId = id →
        ¬ (old.qualifier.source = source ∧ old.qualifier.name = name) := by
  rw [fresh, Finset.mem_filter]
  refine and_congr_left fun _ => ⟨fun h => (Finset.mem_filter.1 h).2, ?_⟩
  intro ⟨d, hfirst, hsource, hname⟩
  exact mem_idsNamed hfirst hsource hname

theorem newcomers_ascending (s : Snapshot) (ds : List Descriptor) :
    (s.newcomers ds).Pairwise fun a b => a.platformId ≤ b.platformId := by
  rw [newcomers]
  refine (List.pairwise_mergeSort ?_ ?_ _).imp of_decide_eq_true
  · intro a b c hab hbc
    exact decide_eq_true (Int32.le_trans (of_decide_eq_true hab) (of_decide_eq_true hbc))
  · intro a b
    simpa using Int32.le_total a.platformId b.platformId

namespace Faithful

variable {s : Snapshot} (hs : Faithful s)
include hs

/-- A device gets a new qualifier exactly if the snapshot does not hold its platform id with its
source and its name. -/
theorem kept?_eq_none_iff {d : Descriptor} : s.kept? d = none ↔
    ∀ old ∈ s.toList, old.platformId = d.platformId →
      ¬ (old.qualifier.source = d.source ∧ old.qualifier.name = d.name) := by
  rw [Option.eq_none_iff_forall_ne_some]
  constructor
  · intro h old hold hid hpair
    refine h old.qualifier (kept?_eq_some_iff.2 ⟨old, ?_, rfl, hpair⟩)
    rw [← hid]
    exact hs.getById?_of_get? (hs.mem_toList_iff.1 hold)
  · intro h q hq
    obtain ⟨old, hold, rfl, hpair⟩ := kept?_eq_some_iff.1 hq
    obtain ⟨hget, hid⟩ := hs.getById?_iff.1 hold
    exact h old (hs.mem_toList_iff.2 hget) hid hpair

/-- The new devices of a source and a name are served in ascending order of their platform ids. -/
theorem sort_fresh (ds : List Descriptor) (source name : String) :
    (s.fresh ds source name).sort (· ≤ ·) =
      ((s.newcomers ds).filter fun d => d.source = source ∧ d.name = name).map
        Descriptor.platformId := by
  set new := (s.newcomers ds).filter fun d => d.source = source ∧ d.name = name with hnew
  have hnodup : (new.map Descriptor.platformId).Nodup :=
    (newcomers_ids_nodup s ds).sublist (List.filter_sublist.map _)
  have hasc : (new.map Descriptor.platformId).Pairwise (· ≤ ·) :=
    List.pairwise_map.2 ((newcomers_ascending s ds).sublist List.filter_sublist)
  have hset : s.fresh ds source name = (new.map Descriptor.platformId).toFinset := by
    ext id
    simp only [mem_fresh_iff, List.mem_toFinset, List.mem_map, hnew, List.mem_filter,
      mem_newcomers_iff, mem_firsts_iff, decide_eq_true_eq]
    constructor
    · rintro ⟨⟨d, hfirst, rfl, rfl⟩, hnone⟩
      obtain rfl : d.platformId = id := firstWith?_platformId hfirst
      exact ⟨d, ⟨⟨hfirst, hs.kept?_eq_none_iff.2 hnone⟩, rfl, rfl⟩, rfl⟩
    · rintro ⟨d, ⟨⟨hfirst, hnone⟩, rfl, rfl⟩, rfl⟩
      exact ⟨⟨d, hfirst, rfl, rfl⟩, hs.kept?_eq_none_iff.1 hnone⟩
  rw [hset]
  exact (List.toFinset_sort (· ≤ ·) hnodup).2 hasc

theorem card_fresh (ds : List Descriptor) (source name : String) :
    (s.fresh ds source name).card = asking (s.newcomers ds) source name := by
  rw [← Finset.length_sort (· ≤ ·), hs.sort_fresh, List.length_map, asking,
    List.countP_eq_length_filter]

/-- The numbers of the new devices of a source and a name, in ascending order of their platform
ids. -/
theorem numbers_fresh {ds : List Descriptor} (hds : ∀ d ∈ ds, PlainSource d.source)
    (source name : String) :
    ((s.fresh ds source name).sort (· ≤ ·)).map (fun id =>
        ((s.rebuild ds).qualifierOf? id).map fun q => (q.source, q.id.toNat, q.name)) =
      (List.range (s.fresh ds source name).card).map fun k =>
        some (source, Nat.nth (Unused (s.toList.map Device.qualifier) source name) k, name) := by
  have hnumbers := assign_numbers (hs.numbers_suffice ds) source name
  rw [hs.card_fresh, hs.sort_fresh,
    ← map_fst_ofPair_assign (s.toList.map Device.qualifier), List.map_map, List.map_map]
  have hsome := congrArg (List.map fun n => some (source, n, name)) hnumbers
  rw [List.map_map, List.map_map] at hsome
  refine Eq.trans (List.map_congr_left fun p hp => ?_) hsome
  obtain ⟨hp, hpair⟩ := List.mem_filter.1 hp
  obtain ⟨hsource, hname⟩ := of_decide_eq_true hpair
  have hin : p ∈ s.assigned ds := by
    rw [assigned_eq]
    exact List.mem_append_right _ hp
  show ((s.rebuild ds).qualifierOf? p.1.platformId).map _ = _
  rw [qualifierOf?_rebuild (toldApart_assigned s hds) hin, Option.map_some, (assigned_pair hin).1,
    (assigned_pair hin).2, hsource, hname]
  rfl

end Faithful

/-! ## Every history -/

/-- The position of a new device among those of its source and name tells its number. -/
theorem Faithful.number_at {s : Snapshot} (hs : Faithful s) {ds : List Descriptor}
    (hds : ∀ d ∈ ds, PlainSource d.source) {source name : String} {k : Nat} {id : Int32}
    (hid : ((s.fresh ds source name).sort (· ≤ ·))[k]? = some id) :
    ((s.rebuild ds).qualifierOf? id).map (fun q => (q.source, q.id.toNat, q.name)) =
      some (source, Nat.nth (Unused (s.toList.map Device.qualifier) source name) k, name) := by
  have h := congrArg (·[k]?) (hs.numbers_fresh hds source name)
  have hk : k < (s.fresh ds source name).card := by
    rw [← Finset.length_sort (· ≤ ·)]
    exact (List.getElem?_eq_some_iff.1 hid).1
  simpa [List.getElem?_map, hid, List.getElem?_range hk] using h

/-- Of two new devices of one source and name, that with the smaller platform id has the smaller
number. -/
theorem Faithful.number_lt {s : Snapshot} (hs : Faithful s) {ds : List Descriptor}
    (hds : ∀ d ∈ ds, PlainSource d.source) {source name : String} {a b : Int32}
    (ha : a ∈ s.fresh ds source name) (hb : b ∈ s.fresh ds source name) (hab : a < b)
    {p q : Qualifier} (hp : (s.rebuild ds).qualifierOf? a = some p)
    (hq : (s.rebuild ds).qualifierOf? b = some q) : p.id < q.id := by
  obtain ⟨i, hi⟩ := List.getElem?_of_mem ((Finset.mem_sort (· ≤ ·)).2 ha)
  obtain ⟨j, hj⟩ := List.getElem?_of_mem ((Finset.mem_sort (· ≤ ·)).2 hb)
  have hij : i < j := by
    by_contra hji
    have hle : b ≤ a := by
      rcases Nat.lt_or_eq_of_le (Nat.le_of_not_lt hji) with hlt | rfl
      · obtain ⟨hi', rfl⟩ := List.getElem?_eq_some_iff.1 hi
        obtain ⟨hj', rfl⟩ := List.getElem?_eq_some_iff.1 hj
        exact List.pairwise_iff_getElem.1 (Finset.pairwise_sort _ (· ≤ ·)) j i hj' hi' hlt
      · rw [hi, Option.some.injEq] at hj
        exact hj ▸ Int32.le_refl _
    exact Int32.lt_irrefl (Int32.lt_of_lt_of_le hab hle)
  have hpn := hs.number_at hds hi
  have hqn := hs.number_at hds hj
  rw [hp, Option.map_some, Option.some.injEq, Prod.mk.injEq, Prod.mk.injEq] at hpn
  rw [hq, Option.map_some, Option.some.injEq, Prod.mk.injEq, Prod.mk.injEq] at hqn
  rw [UInt32.lt_iff_toNat_lt, hpn.2.1, hqn.2.1]
  exact Nat.nth_strictMono (infinite_unused _ source name) hij

/-- The new devices of other sources and names do not matter. -/
theorem Faithful.qualifierOf?_congr {s : Snapshot} (hs : Faithful s) {ds ds' : List Descriptor}
    (hds : ∀ d ∈ ds, PlainSource d.source) (hds' : ∀ d ∈ ds', PlainSource d.source)
    {source name : String} (hsame : s.fresh ds' source name = s.fresh ds source name) {id : Int32}
    (hid : id ∈ s.fresh ds source name) :
    (s.rebuild ds').qualifierOf? id = (s.rebuild ds).qualifierOf? id := by
  obtain ⟨k, hk⟩ := List.getElem?_of_mem ((Finset.mem_sort (· ≤ ·)).2 hid)
  have h := (hs.number_at hds' (hsame ▸ hk)).trans (hs.number_at hds hk).symm
  refine Option.map_injective (fun p q hpq => ?_) h
  cases p
  cases q
  simpa [Prod.mk.injEq, UInt32.toNat_inj] using hpq

/-- After any history in which no source has a slash, the new devices of a source and a name get, in
ascending order of their platform ids, the first numbers that no device of the registry has with
them, in ascending order. So a smaller platform id gets the smaller number, and in lists with the
same new devices of the source and the name these get the same numbers. -/
theorem fresh_fill_gaps {history : List Request} (hplain : ∀ r ∈ history, r.Plain)
    {ds : List Descriptor} (hds : ∀ d ∈ ds, PlainSource d.source) (source name : String) :
    let s := afterAll history
    ((s.fresh ds source name).sort (· ≤ ·)).map (fun id =>
        ((s.rebuild ds).qualifierOf? id).map fun q => (q.source, q.id.toNat, q.name)) =
      (List.range (s.fresh ds source name).card).map (fun k =>
        some (source, Nat.nth (Unused (s.toList.map Device.qualifier) source name) k, name)) ∧
    (∀ a ∈ s.fresh ds source name, ∀ b ∈ s.fresh ds source name, a < b →
      ∀ p ∈ (s.rebuild ds).qualifierOf? a, ∀ q ∈ (s.rebuild ds).qualifierOf? b, p.id < q.id) ∧
    ∀ ds', (∀ d ∈ ds', PlainSource d.source) →
      s.fresh ds' source name = s.fresh ds source name → ∀ id ∈ s.fresh ds source name,
        (s.rebuild ds').qualifierOf? id = (s.rebuild ds).qualifierOf? id := by
  intro s
  have hs : Faithful s := faithful_afterAll hplain
  refine ⟨hs.numbers_fresh hds source name, ?_, ?_⟩
  · intro a ha b hb hab p hp q hq
    exact hs.number_lt hds ha hb hab hp hq
  · intro ds' hds' hsame id hid
    exact hs.qualifierOf?_congr hds hds' hsame hid

/-- Of three pads the second is left, with number 1. Three more pads come with a stick: they get the
gap below it and the numbers above it, in the order of their platform ids. -/
theorem fresh_fill_gaps_around_second :
    let history : List Request := [.rebuild [.bare 1 "Mock" "Pad"],
      .rebuild [.bare 1 "Mock" "Pad", .bare 2 "Mock" "Pad"],
      .rebuild [.bare 3 "Mock" "Pad", .bare 2 "Mock" "Pad", .bare 1 "Mock" "Pad"],
      .refresh (.ok [.bare 2 "Mock" "Pad"])]
    let ds : List Descriptor := [.bare 9 "Mock" "Pad", .bare 2 "Mock" "Pad", .bare 7 "Mock" "Pad",
      .bare 5 "Mock" "Stick", .bare (-4) "Mock" "Pad"]
    (afterAll history).fresh ds "Mock" "Pad" = [-4, 7, 9].toFinset ∧
    [-4, 7, 9].map (fun id => (((afterAll history).rebuild ds).qualifierOf? id).map
        fun q => (q.source, q.id.toNat, q.name)) =
      [some ("Mock", 0, "Pad"), some ("Mock", 2, "Pad"), some ("Mock", 3, "Pad")] := by
  intro history ds
  have hfresh : (afterAll history).fresh ds "Mock" "Pad" = [-4, 7, 9].toFinset := by
    decide +kernel
  have htaken : (afterAll history).toList.map Device.qualifier = [⟨"Mock", 1, "Pad"⟩] := by
    decide +kernel
  have hsort : [-4, 7, 9].toFinset.sort (· ≤ ·) = ([-4, 7, 9] : List Int32) :=
    (List.toFinset_sort (· ≤ ·) (by decide)).2 (by decide)
  have hplain : ∀ r ∈ history, r.Plain := by decide
  have hds : ∀ d ∈ ds, PlainSource d.source := by decide
  have hfill := (fresh_fill_gaps hplain hds "Mock" "Pad").1
  rw [hfresh, hsort, htaken] at hfill
  set free := Unused [⟨"Mock", 1, "Pad"⟩] "Mock" "Pad"
  have h0 : Nat.nth free 0 = 0 := Nat.nth_count (p := free) (n := 0) (by decide)
  have h1 : Nat.nth free 1 = 2 := Nat.nth_count (p := free) (n := 2) (by decide)
  have h2 : Nat.nth free 2 = 3 := Nat.nth_count (p := free) (n := 3) (by decide)
  have hcard : ([-4, 7, 9] : List Int32).toFinset.card = 3 := by decide
  refine ⟨hfresh, hfill.trans ?_⟩
  rw [hcard]
  show [some _, some _, some _] = _
  rw [h0, h1, h2]

end InputHub.Snapshot
