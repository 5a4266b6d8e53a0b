import Mathlib.Data.List.Nodup
import Mathlib.Data.Finset.Card
import Mathlib.Data.Finset.Image
import InputHub.Snapshot

/-!
# Entering devices into a snapshot

A snapshot is filled by entering devices one after the other, each in place of what stands under its
key or its platform id. What a look-up finds afterwards is therefore what was entered last:

* `Snapshot.get?_enterAll`, `Snapshot.keys_enterAll`: both tables in terms of the list entered;
* `Snapshot.size_enterAll`: there are as many devices as different keys;
* `Snapshot.get?_enterAll_iff`, `Snapshot.keys_enterAll_iff`: when nothing is entered twice, the
  tables hold exactly the list.
-/

namespace InputHub

/-! ## Tables as lists -/

section Tables

variable {α β : Type} {cmp : α → α → Ordering}

theorem values_eq_map (m : Std.TreeMap α β cmp) : m.values = m.toList.map Prod.snd := by
  have h : m.values = m.foldr (fun _ v l => v :: l) [] := rfl
  rw [h, Std.TreeMap.foldr_eq_foldr_toList]
  induction m.toList with
  | nil => rfl
  | cons p ps ih => simp [ih]

theorem mem_values_iff [Std.TransCmp cmp] [Std.LawfulEqCmp cmp] {m : Std.TreeMap α β cmp} {v : β} :
    v ∈ m.values ↔ ∃ k : α, m[k]? = some v := by
  simp [values_eq_map, Std.TreeMap.mem_toList_iff_getElem?_eq_some]

variable {γ δ : Type} [DecidableEq δ]

theorem exists_find?_reverse (f : γ → δ) {l : List γ} {x : γ} (hx : x ∈ l) :
    ∃ y, l.reverse.find? (fun y => f y = f x) = some y :=
  Option.isSome_iff_exists.1 (List.find?_isSome.2 ⟨x, List.mem_reverse.2 hx, decide_eq_true rfl⟩)

theorem of_find?_reverse {f : γ → δ} {l : List γ} {a : δ} {x : γ}
    (h : l.reverse.find? (fun y => f y = a) = some x) : x ∈ l ∧ f x = a :=
  ⟨List.mem_reverse.1 (List.mem_of_find?_eq_some h), by simpa using List.find?_some h⟩

/-- The last member with a mark has none with it behind. -/
theorem find?_reverse_eq_some_iff {f : γ → δ} {l : List γ} {a : δ} {x : γ} :
    l.reverse.find? (fun y => f y = a) = some x ↔
      f x = a ∧ ∃ before after, l = before ++ x :: after ∧ ∀ y ∈ after, f y ≠ a := by
  rw [List.find?_eq_some_iff_append]
  refine and_congr (by simp) ⟨?_, ?_⟩
  · intro ⟨after, before, hl, hno⟩
    refine ⟨before.reverse, after.reverse, ?_, fun y hy => ?_⟩
    · rw [← List.reverse_reverse l, hl]
      simp
    · simpa using hno y (List.mem_reverse.1 hy)
  · rintro ⟨before, after, rfl, hno⟩
    refine ⟨after.reverse, before.reverse, by simp, fun y hy => ?_⟩
    simpa using hno y (List.mem_reverse.1 hy)

/-- In a list without repetitions the last member with a mark is the only one. -/
theorem find?_reverse_iff {f : γ → δ} {l : List γ} (h : (l.map f).Nodup) {a : δ} {x : γ} :
    l.reverse.find? (fun y => f y = a) = some x ↔ x ∈ l ∧ f x = a := by
  refine ⟨of_find?_reverse, ?_⟩
  rintro ⟨hx, rfl⟩
  obtain ⟨y, hf⟩ := exists_find?_reverse f hx
  obtain ⟨hy, he⟩ := of_find?_reverse hf
  rw [hf, List.inj_on_of_nodup_map h hy hx he]

end Tables

namespace Snapshot

/-- Enters the devices of a list, one after the other. -/
def enterAll (t : Snapshot) (ps : List (Descriptor × Qualifier)) : Snapshot :=
  ps.foldl (fun t p => t.enter p.1 p.2) t

/-- A snapshot without devices. -/
def blank (generation : Nat) : Snapshot := { initial with generation }

theorem rebuild_eq (s : Snapshot) (ds : List Descriptor) :
    s.rebuild ds = (blank (s.generation + 1)).enterAll (s.assigned ds) := rfl

theorem enterAll_concat (t : Snapshot) (ps : List (Descriptor × Qualifier))
    (p : Descriptor × Qualifier) : t.enterAll (ps ++ [p]) = (t.enterAll ps).enter p.1 p.2 := by
  simp [enterAll]

theorem generation_rebuild (s : Snapshot) (ds : List Descriptor) :
    (s.rebuild ds).generation = s.generation + 1 := by
  rw [rebuild_eq]
  induction s.assigned ds using List.reverseRecOn with
  | nil => rfl
  | append_singleton ps p ih => rw [enterAll_concat, enter, ih]

theorem get?_enter (t : Snapshot) (d : Descriptor) (q : Qualifier) (k : String) :
    (t.enter d q).get? k = if q.render = k then some (.ofDescriptor d q) else t.get? k := by
  simp [get?, enter, Std.TreeMap.getElem?_insert]

theorem keys_enter (t : Snapshot) (d : Descriptor) (q : Qualifier) (id : Int32) :
    (t.enter d q).keys[id]? = if d.platformId = id then some q.render else t.keys[id]? := by
  simp [enter, Std.TreeMap.getElem?_insert]

theorem get?_blank (g : Nat) (k : String) : (blank g).get? k = none := by
  simp [blank, initial, get?]

theorem keys_blank (g : Nat) (id : Int32) : (blank g).keys[id]? = none := by
  simp [blank, initial]

theorem get?_initial (k : String) : initial.get? k = none := get?_blank 0 k

theorem keys_initial (id : Int32) : initial.keys[id]? = none := keys_blank 0 id

/-- Under a key stands the device that was entered last under it. -/
theorem get?_enterAll (g : Nat) (ps : List (Descriptor × Qualifier)) (k : String) :
    ((blank g).enterAll ps).get? k =
      (ps.reverse.find? fun p => p.2.render = k).map fun p => .ofDescriptor p.1 p.2 := by
  induction ps using List.reverseRecOn with
  | nil => exact get?_blank g k
  | append_singleton ps p ih =>
    rw [enterAll_concat, get?_enter, ih]
    by_cases h : p.2.render = k <;> simp [h]

/-- A platform id leads to the key that was entered last for it. -/
theorem keys_enterAll (g : Nat) (ps : List (Descriptor × Qualifier)) (id : Int32) :
    ((blank g).enterAll ps).keys[id]? =
      (ps.reverse.find? fun p => p.1.platformId = id).map fun p => p.2.render := by
  induction ps using List.reverseRecOn with
  | nil => exact keys_blank g id
  | append_singleton ps p ih =>
    rw [enterAll_concat, keys_enter, ih]
    by_cases h : p.1.platformId = id <;> simp [h]

theorem mem_qualifiers_iff {s : Snapshot} {k : String} :
    k ∈ s.qualifiers ↔ ∃ dev, s.get? k = some dev := by
  rw [qualifiers, Std.TreeMap.mem_keys, Std.TreeMap.mem_iff_isSome_getElem?,
    Option.isSome_iff_exists]
  rfl

theorem size_eq_card (s : Snapshot) : s.size = s.qualifiers.toFinset.card := by
  rw [qualifiers, List.toFinset_card_of_nodup Std.TreeMap.nodup_keys, Std.TreeMap.length_keys, size]

/-- The keys of a snapshot are the texts that were entered. -/
theorem mem_qualifiers_enterAll {g : Nat} {ps : List (Descriptor × Qualifier)} {k : String} :
    k ∈ ((blank g).enterAll ps).qualifiers ↔ ∃ p ∈ ps, p.2.render = k := by
  simp only [mem_qualifiers_iff, get?_enterAll, Option.map_eq_some_iff]
  constructor
  · intro ⟨_, p, hp, _⟩
    have h := of_find?_reverse (f := fun p : Descriptor × Qualifier => p.2.render) hp
    exact ⟨p, h⟩
  · rintro ⟨p, hp, rfl⟩
    obtain ⟨p', hp'⟩ := exists_find?_reverse (fun p : Descriptor × Qualifier => p.2.render) hp
    exact ⟨_, p', hp', rfl⟩

theorem size_enterAll (g : Nat) (ps : List (Descriptor × Qualifier)) :
    ((blank g).enterAll ps).size = (ps.map fun p => p.2.render).toFinset.card := by
  rw [size_eq_card]
  congr 1
  ext k
  rw [List.mem_toFinset, mem_qualifiers_enterAll, List.mem_toFinset, List.mem_map]

/-! ## Lists that enter nothing twice -/

theorem keys_enterAll_iff {ps : List (Descriptor × Qualifier)}
    (h : (ps.map fun p => p.1.platformId).Nodup) {g : Nat} {id : Int32} {k : String} :
    ((blank g).enterAll ps).keys[id]? = some k ↔
      ∃ p ∈ ps, p.1.platformId = id ∧ p.2.render = k := by
  simp only [keys_enterAll, Option.map_eq_some_iff, find?_reverse_iff h, and_assoc]

theorem get?_enterAll_iff {ps : List (Descriptor × Qualifier)}
    (h : (ps.map fun p => p.2.render).Nodup) {g : Nat} {k : String} {dev : Device} :
    ((blank g).enterAll ps).get? k = some dev ↔
      ∃ p ∈ ps, p.2.render = k ∧ .ofDescriptor p.1 p.2 = dev := by
  simp only [get?_enterAll, Option.map_eq_some_iff, find?_reverse_iff h, and_assoc]

end Snapshot

end InputHub
