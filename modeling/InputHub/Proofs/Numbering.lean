import Mathlib.Data.Finset.Card
import Mathlib.Data.Finset.Image
import Mathlib.Data.Nat.Find
import InputHub.Snapshot

/-!
# Numbers for new devices

A new device gets the least number that is free for its source and name. Numbers are words of 32
bits, so there is a free one as long as fewer than `2 ^ 32` are held:

* `Snapshot.lowestFree_spec`: the number found is free, all below it are held, and it is at most the
  count of held ones;
* `Snapshot.assign_fresh`: when the numbers suffice for a whole list, every device of the list gets
  a qualifier that was not taken before, and no two get the same.
-/

namespace InputHub.Snapshot

/-- How many different qualifiers of a list have a source and a name. -/
def held (taken : List Qualifier) (source name : String) : Nat :=
  (taken.toFinset.filter fun q => q.source = source ∧ q.name = name).card

/-- How many descriptions of a list have a source and a name. -/
def asking (ds : List Descriptor) (source name : String) : Nat :=
  ds.countP fun d => d.source = source ∧ d.name = name

theorem held_le_length (taken : List Qualifier) (source name : String) :
    held taken source name ≤ taken.length :=
  (Finset.card_filter_le _ _).trans taken.toFinset_card_le

/-- One more qualifier adds at most one to its own pair and nothing to the others. -/
theorem held_cons_le (q : Qualifier) (taken : List Qualifier) (source name : String) :
    held (q :: taken) source name ≤
      held taken source name + if q.source = source ∧ q.name = name then 1 else 0 := by
  rw [held, List.toFinset_cons, Finset.filter_insert]
  split
  · exact Finset.card_insert_le _ _
  · exact Nat.le_refl _

/-! ## The least free number -/

theorem numbered_injOn (source name : String) {n : Nat} (hn : n ≤ UInt32.size) :
    Set.InjOn (fun m : Nat => (⟨source, UInt32.ofNat m, name⟩ : Qualifier))
      (Finset.range n : Set Nat) := by
  intro a ha b hb h
  simp only [Finset.coe_range, Set.mem_Iio] at ha hb
  simp only [Qualifier.mk.injEq, true_and, and_true] at h
  have := congrArg UInt32.toNat h
  rwa [UInt32.toNat_ofNat_of_lt' (ha.trans_le hn), UInt32.toNat_ofNat_of_lt' (hb.trans_le hn)]
    at this

/-- Among one more numbers than are held, one is free. -/
theorem exists_free {taken : List Qualifier} {source name : String}
    (h : held taken source name < UInt32.size) :
    ∃ m ≤ held taken source name, (⟨source, UInt32.ofNat m, name⟩ : Qualifier) ∉ taken := by
  by_contra hall
  push Not at hall
  have hsub : (Finset.range (held taken source name + 1)).image
      (fun m => (⟨source, UInt32.ofNat m, name⟩ : Qualifier)) ⊆
        taken.toFinset.filter fun q => q.source = source ∧ q.name = name := by
    intro q hq
    obtain ⟨m, hm, rfl⟩ := Finset.mem_image.1 hq
    simp only [Finset.mem_filter, List.mem_toFinset, and_self, and_true]
    exact hall m (Nat.lt_succ_iff.1 (Finset.mem_range.1 hm))
  have hcard := Finset.card_le_card hsub
  rw [Finset.card_image_of_injOn (numbered_injOn source name h), Finset.card_range] at hcard
  exact absurd hcard (Nat.not_succ_le_self _)

/-- The number found is free and at most the count of held ones, and all below it are held. -/
theorem lowestFree_spec {taken : List Qualifier} {source name : String}
    (h : held taken source name < UInt32.size) :
    ∃ m ≤ held taken source name,
      lowestFree taken source name = ⟨source, UInt32.ofNat m, name⟩ ∧
        (⟨source, UInt32.ofNat m, name⟩ : Qualifier) ∉ taken ∧
          ∀ k < m, (⟨source, UInt32.ofNat k, name⟩ : Qualifier) ∈ taken := by
  classical
  have hex := exists_free h
  have hfree : ∃ m, (⟨source, UInt32.ofNat m, name⟩ : Qualifier) ∉ taken :=
    hex.imp fun _ hm => hm.2
  have hle : Nat.find hfree ≤ held taken source name := by
    obtain ⟨m, hm, hnot⟩ := hex
    exact (Nat.find_min' hfree hnot).trans hm
  have hbelow : ∀ k < Nat.find hfree, (⟨source, UInt32.ofNat k, name⟩ : Qualifier) ∈ taken :=
    fun k hk => not_not.1 (Nat.find_min hfree hk)
  refine ⟨Nat.find hfree, hle, ?_, Nat.find_spec hfree, hbelow⟩
  have hfind : (List.range (taken.length + 1)).find?
      ((fun q : Qualifier => decide (q ∉ taken)) ∘
        fun n => (⟨source, UInt32.ofNat n, name⟩ : Qualifier)) = some (Nat.find hfree) := by
    rw [List.find?_range_eq_some]
    refine ⟨by simpa using Nat.find_spec hfree, ?_, fun k hk => by simpa using hbelow k hk⟩
    exact List.mem_range.2 (Nat.lt_succ_iff.2 (hle.trans (held_le_length ..)))
  simp only [lowestFree, List.find?_map, hfind, Option.map_some, Option.getD_some]

theorem lowestFree_not_mem {taken : List Qualifier} {source name : String}
    (h : held taken source name < UInt32.size) : lowestFree taken source name ∉ taken := by
  obtain ⟨m, -, he, hfree, -⟩ := lowestFree_spec h
  rwa [he]

/-- Whatever is taken, the qualifier found has the source and the name that were asked for. -/
theorem lowestFree_pair (taken : List Qualifier) (source name : String) :
    (lowestFree taken source name).source = source ∧
      (lowestFree taken source name).name = name := by
  simp only [lowestFree, List.find?_map]
  cases List.find? _ (List.range (taken.length + 1)) <;> exact ⟨rfl, rfl⟩

/-! ## A list of new devices -/

theorem map_fst_assign (taken : List Qualifier) (ds : List Descriptor) :
    (assign taken ds).map Prod.fst = ds := by
  induction ds generalizing taken with
  | nil => rfl
  | cons d ds ih => simp [assign, ih]

theorem assign_pair {taken : List Qualifier} {ds : List Descriptor} {p : Descriptor × Qualifier}
    (h : p ∈ assign taken ds) : p.2.source = p.1.source ∧ p.2.name = p.1.name := by
  induction ds generalizing taken with
  | nil => simp [assign] at h
  | cons d ds ih =>
    simp only [assign, List.mem_cons] at h
    rcases h with rfl | h
    · exact lowestFree_pair taken d.source d.name
    · exact ih h

theorem asking_cons_self (d : Descriptor) (ds : List Descriptor) :
    asking (d :: ds) d.source d.name = asking ds d.source d.name + 1 := by
  simp [asking]

/-- A number that is given counts as held from then on, and is no longer asked for. -/
theorem held_lowestFree_add_asking_le (taken : List Qualifier) (d : Descriptor)
    (ds : List Descriptor) (source name : String) :
    held (lowestFree taken d.source d.name :: taken) source name + asking ds source name ≤
      held taken source name + asking (d :: ds) source name := by
  have h := held_cons_le (lowestFree taken d.source d.name) taken source name
  rw [(lowestFree_pair ..).1, (lowestFree_pair ..).2] at h
  simp only [asking, List.countP_cons, decide_eq_true_eq]
  omega

/-- When the numbers suffice for a list, its devices get qualifiers that are not taken and that
differ from each other. -/
theorem assign_fresh {taken : List Qualifier} {ds : List Descriptor}
    (h : ∀ source name, held taken source name + asking ds source name ≤ UInt32.size) :
    ((assign taken ds).map Prod.snd).Nodup ∧ ∀ p ∈ assign taken ds, p.2 ∉ taken := by
  induction ds generalizing taken with
  | nil => simp [assign]
  | cons d ds ih =>
    have hfree : lowestFree taken d.source d.name ∉ taken := by
      apply lowestFree_not_mem
      have := h d.source d.name
      rw [asking_cons_self] at this
      omega
    have hrest : ∀ source name, held (lowestFree taken d.source d.name :: taken) source name +
        asking ds source name ≤ UInt32.size :=
      fun source name => (held_lowestFree_add_asking_le ..).trans (h source name)
    obtain ⟨hnodup, hnew⟩ := ih hrest
    simp only [assign, List.map_cons, List.nodup_cons, List.mem_cons, forall_eq_or_imp]
    refine ⟨⟨?_, hnodup⟩, hfree, fun p hp => fun hmem => hnew p hp (List.mem_cons_of_mem _ hmem)⟩
    intro hmem
    obtain ⟨p, hp, he⟩ := List.mem_map.1 hmem
    exact hnew p hp (he ▸ List.mem_cons_self ..)

end InputHub.Snapshot
