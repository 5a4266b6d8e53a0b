import Mathlib.Data.List.Nodup
import Mathlib.Data.List.Perm.Subperm
import InputHub.EventNodes.Platform
import InputHub.Proofs.Spelling

/-!
# Listings of an input directory

A directory tells its files in no particular order, and a listing sorts the devices among them by
the numbers in their names. A number has many numerals, so two files may have the same number; they
are then listed in the order in which the directory told them. What is listed of any directory, and
where its order shows:

* `nodeNumber?_eq_some_iff`: which names have a number, and which one;
* `Platform.mem_opened_iff`, `Platform.opened_ascending`: the files that are listed, and in which
  order;
* `Platform.opened_eq_of_perm`: files with different numbers are listed in one order only;
* `Platform.list_follows_numbers`: the listing of a directory, in any order of its files.
-/

namespace InputHub

namespace Numeral

/-- A numeral spells an integer: it is a numeral of a natural number, or its digits are behind a
minus sign. -/
def SpellsInt (cs : List Char) (n : Int) : Prop :=
  (∃ k : Nat, Spells cs k ∧ n = k) ∨
    ∃ ds, cs = '-' :: ds ∧ ds ≠ [] ∧ (∀ c ∈ ds, c.isDigit) ∧ n = -(Nat.ofDigitChars 10 ds 0 : Int)

theorem not_spells_minus {ds : List Char} {k : Nat} : ¬ Spells ('-' :: ds) k := by
  rintro ⟨es, rfl | h, -, hdigits, -⟩
  · exact absurd (hdigits '-' List.mem_cons_self) (by decide)
  · exact absurd (List.cons.inj h).1 (by decide)

theorem signed?_minus (ds : List Char) :
    signed? ('-' :: ds) = (natural? ds).map fun k : Nat => -(k : Int) := by
  rw [signed?]
  cases natural? ds <;> rfl

/-- A text is read as an integer exactly if it spells the integer. -/
theorem signed?_eq_some_iff {cs : List Char} {n : Int} : signed? cs = some n ↔ SpellsInt cs n := by
  by_cases hminus : ∃ ds, cs = '-' :: ds
  · obtain ⟨ds, rfl⟩ := hminus
    simp only [signed?_minus, SpellsInt, not_spells_minus, false_and, exists_false, false_or,
      Option.map_eq_some_iff, natural?_eq_some_iff]
    constructor
    · rintro ⟨k, ⟨hne, hdigits, rfl⟩, rfl⟩
      exact ⟨ds, rfl, hne, hdigits, rfl⟩
    · rintro ⟨es, h, hne, hdigits, rfl⟩
      obtain rfl := (List.cons.inj h).2
      exact ⟨_, ⟨hne, hdigits, rfl⟩, rfl⟩
  · have hplain : signed? cs = (unsigned? cs).map Int.ofNat := by
      rw [signed?.eq_def]
      split
      · exact absurd ⟨_, rfl⟩ hminus
      · rfl
    rw [hplain, Option.map_eq_some_iff]
    simp only [unsigned?_eq_some_iff]
    constructor
    · rintro ⟨k, hk, rfl⟩
      exact .inl ⟨k, hk, rfl⟩
    · rintro (⟨k, hk, rfl⟩ | ⟨ds, rfl, -⟩)
      · exact ⟨k, hk, rfl⟩
      · exact absurd ⟨ds, rfl⟩ hminus

theorem int32?_eq_some_iff {cs : List Char} {n : Int32} :
    int32? cs = some n ↔ SpellsInt cs n.toInt := by
  simp only [int32?, Option.bind_eq_some_iff, signed?_eq_some_iff]
  constructor
  · rintro ⟨m, hm, hn⟩
    split at hn
    · rename_i hfits
      obtain rfl := Option.some.inj hn
      rwa [Int32.toInt_ofInt_of_le hfits.1 (Int.lt_of_le_sub_one hfits.2)]
    · cases hn
  · intro h
    have hfits := And.intro n.minValue_le_toInt n.toInt_le
    exact ⟨n.toInt, h, by rw [if_pos hfits, Int32.ofInt_toInt]⟩

/-- The numeral that is written for a natural number spells no other integer. -/
theorem spellsInt_ofNat_iff {k : Nat} {n : Int} : SpellsInt (ofNat k).toList n ↔ n = k := by
  rw [← signed?_eq_some_iff]
  have hread : signed? (ofNat k).toList = some (k : Int) :=
    signed?_eq_some_iff.2 (.inl ⟨k, unsigned?_eq_some_iff.1 (unsigned?_ofNat k), rfl⟩)
  rw [hread, Option.some.injEq, eq_comm]

end Numeral

namespace EventNodes

/-- A name is that of an event node with a number: a numeral of the number stands behind `event`. -/
def Numbered (name : String) (id : Int32) : Prop :=
  ∃ numeral, name = "event" ++ numeral ∧ Numeral.SpellsInt numeral.toList id.toInt

theorem nodeNumber?_append (numeral : String) :
    nodeNumber? ("event" ++ numeral) = Numeral.int32? numeral.toList := by
  rw [nodeNumber?, String.toList_append]
  rfl

theorem eq_append_of_nodeNumber? {name : String} (h : (nodeNumber? name).isSome) :
    ∃ numeral, name = "event" ++ numeral := by
  rw [nodeNumber?] at h
  split at h
  · rename_i digits hname
    refine ⟨String.ofList digits, ?_⟩
    rw [← String.toList_inj, String.toList_append, hname]
    simp
  · cases h

theorem nodeNumber?_eq_some_iff {name : String} {id : Int32} :
    nodeNumber? name = some id ↔ Numbered name id := by
  constructor
  · intro h
    obtain ⟨numeral, rfl⟩ := eq_append_of_nodeNumber? (h ▸ rfl : (nodeNumber? name).isSome)
    rw [nodeNumber?_append] at h
    exact ⟨numeral, rfl, Numeral.int32?_eq_some_iff.1 h⟩
  · rintro ⟨numeral, rfl, h⟩
    rw [nodeNumber?_append]
    exact Numeral.int32?_eq_some_iff.2 h

theorem Numbered.unique {name : String} {id id' : Int32} (h : Numbered name id)
    (h' : Numbered name id') : id = id' :=
  Option.some.inj ((nodeNumber?_eq_some_iff.2 h).symm.trans (nodeNumber?_eq_some_iff.2 h'))

/-- A name that is written with a natural number has this number and no other. -/
theorem numbered_ofNat_iff {k : Nat} {id : Int32} :
    Numbered ("event" ++ Numeral.ofNat k) id ↔ id.toInt = k := by
  rw [← nodeNumber?_eq_some_iff, nodeNumber?_append, Numeral.int32?_eq_some_iff,
    Numeral.spellsInt_ofNat_iff]

theorem Facts.describe_platformId (f : Facts) (id : Int32) (motor : MotorId) :
    (f.describe id motor).platformId = id := by
  unfold describe
  split <;> split <;> rfl

namespace Platform

/-- No number is that of two files that can be opened. -/
def NumberedOnce (p : Platform) : Prop :=
  ∀ m ∈ p.nodes, ∀ n ∈ p.nodes, m.facts.isSome → n.facts.isSome →
    ∀ id, Numbered m.name id → Numbered n.name id → m = n

/-- Every number in the name of a file that can be opened is written as the system writes it. -/
def PlainlyNumbered (p : Platform) : Prop :=
  ∀ n ∈ p.nodes, n.facts.isSome → ∀ id, Numbered n.name id →
    ∃ k, n.name = "event" ++ Numeral.ofNat k

/-- A listing has a file at a place, under a number: the device there is what can be said of the
file, and its motor is that of the file. -/
structure HasAt (p : Platform) (l : Listing) (n : Node) (id : Int32) (i : Nat) : Prop where
  device : l.devices[i]?.map Descriptor.platformId = some id
  described : ∀ facts ∈ n.facts, l.devices[i]? = some (facts.describe id i)
  motor : l.motors[i]? = some (.fresh (p.pathOf n))

variable {p : Platform} {nodes : List Node}

/-! ## The files that are opened -/

theorem mem_opened_iff {id : Int32} {n : Node} {f : Facts} :
    (id, n, f) ∈ p.opened ↔ n ∈ p.nodes ∧ Numbered n.name id ∧ n.facts = some f := by
  simp only [opened, List.mem_mergeSort, List.mem_filterMap, Option.bind_eq_some_iff,
    Option.map_eq_some_iff, nodeNumber?_eq_some_iff]
  grind

theorem before_trans (a b c : Int32 × Node × Facts) (hab : decide (a.1 ≤ b.1))
    (hbc : decide (b.1 ≤ c.1)) : decide (a.1 ≤ c.1) :=
  decide_eq_true (Int32.le_trans (of_decide_eq_true hab) (of_decide_eq_true hbc))

theorem before_total (a b : Int32 × Node × Facts) : decide (a.1 ≤ b.1) || decide (b.1 ≤ a.1) := by
  simpa using Int32.le_total a.1 b.1

theorem opened_ascending (p : Platform) : p.opened.Pairwise (·.1 ≤ ·.1) := by
  have hsorted := List.pairwise_mergeSort before_trans before_total
  exact (hsorted _).imp of_decide_eq_true

theorem opened_perm (h : nodes.Perm p.nodes) : { p with nodes }.opened.Perm p.opened :=
  (List.mergeSort_perm ..).trans ((h.filterMap _).trans (List.mergeSort_perm ..).symm)

/-- A file is opened once only: its name gives the number, and what is said of it is its own. -/
theorem opened_eq_of_node {o o' : Int32 × Node × Facts} (ho : o ∈ p.opened) (ho' : o' ∈ p.opened)
    (hnode : o.2.1 = o'.2.1) : o = o' := by
  obtain ⟨id, n, f⟩ := o
  obtain ⟨id', _, f'⟩ := o'
  obtain rfl : n = _ := hnode
  obtain ⟨-, hid, hf⟩ := mem_opened_iff.1 ho
  obtain ⟨-, hid', hf'⟩ := mem_opened_iff.1 ho'
  rw [hid.unique hid', Option.some.inj (hf.symm.trans hf')]

theorem nodup_opened (hnames : (p.nodes.map Node.name).Nodup) :
    (p.opened.map (·.2.1.name)).Nodup := by
  have hnodup : p.opened.Nodup := by
    rw [opened, (List.mergeSort_perm ..).nodup_iff]
    refine hnames.of_map.filterMap fun m n o hm hn => ?_
    simp only [Option.mem_def, Option.bind_eq_some_iff, Option.map_eq_some_iff] at hm hn
    grind
  refine hnodup.map_on fun o ho o' ho' hname => opened_eq_of_node ho ho' ?_
  exact List.inj_on_of_nodup_map hnames (mem_opened_iff.1 ho).1 (mem_opened_iff.1 ho').1 hname

theorem NumberedOnce.eq_of_mem (h : p.NumberedOnce) {o o' : Int32 × Node × Facts}
    (ho : o ∈ p.opened) (ho' : o' ∈ p.opened) (hid : o.1 = o'.1) : o = o' := by
  obtain ⟨id, m, f⟩ := o
  obtain ⟨_, n, f'⟩ := o'
  obtain rfl : id = _ := hid
  obtain ⟨hm, hmid, hf⟩ := mem_opened_iff.1 ho
  obtain ⟨hn, hnid, hf'⟩ := mem_opened_iff.1 ho'
  exact opened_eq_of_node ho ho' (h m hm n hn (hf ▸ rfl) (hf' ▸ rfl) id hmid hnid)

theorem opened_eq_of_perm (honce : p.NumberedOnce) (h : nodes.Perm p.nodes) :
    { p with nodes }.opened = p.opened := by
  refine (opened_perm h).eq_of_pairwise ?_ (opened_ascending _) (opened_ascending p)
  intro o o' ho ho' hle hge
  exact honce.eq_of_mem ((opened_perm h).mem_iff.1 ho) ho' (Int32.le_antisymm hle hge)

/-- Files with the same number are opened in the order in which the directory tells them. -/
theorem opened_stable {id : Int32} {m n : Node} {f g : Facts} (hm : Numbered m.name id)
    (hn : Numbered n.name id) (hf : m.facts = some f) (hg : n.facts = some g)
    (h : [m, n].Sublist p.nodes) : [(id, m, f), (id, n, g)].Sublist p.opened := by
  refine List.pair_sublist_mergeSort before_trans before_total ?_ ?_
  · exact decide_eq_true Int32.le_rfl
  · have := h.filterMap fun n =>
      (nodeNumber? n.name).bind fun id => n.facts.map fun f => (id, n, f)
    simpa [nodeNumber?_eq_some_iff.2 hm, nodeNumber?_eq_some_iff.2 hn, hf, hg] using this

/-! ## The listing -/

/-- What a directory that can be read lists. -/
def listing (p : Platform) : Listing :=
  ⟨p.opened.zipIdx.map fun ((id, _, facts), motor) => facts.describe id motor,
    p.opened.map fun (_, n, _) => .fresh (p.pathOf n)⟩

theorem list_eq_ok (h : p.listFault = none) : p.list = .ok p.listing := by
  rw [list, h]
  rfl

theorem getElem?_devices (i : Nat) :
    p.listing.devices[i]? = p.opened[i]?.map fun o => o.2.2.describe o.1 i := by
  simp [listing, Function.comp_def]

theorem ids_listing (p : Platform) :
    p.listing.devices.map Descriptor.platformId = p.opened.map (·.1) := by
  refine List.ext_getElem? fun i => ?_
  rw [List.getElem?_map, List.getElem?_map, getElem?_devices, Option.map_map]
  exact congrArg (Option.map · _) (funext fun o => o.2.2.describe_platformId o.1 i)

theorem getElem?_motors (i : Nat) :
    p.listing.motors[i]? = p.opened[i]?.map fun o => .fresh (p.pathOf o.2.1) :=
  List.getElem?_map ..

theorem name_eq_of_fresh {m n : Node} (h : Rumble.fresh (p.pathOf m) = .fresh (p.pathOf n)) :
    m.name = n.name := by
  have hpath : p.pathOf m = p.pathOf n := congrArg Rumble.path h
  rw [pathOf, pathOf, ← String.toList_inj] at hpath
  rw [← String.toList_inj]
  simpa using hpath

theorem hasAt_listing_iff (hnames : (p.nodes.map Node.name).Nodup) {n : Node} (hn : n ∈ p.nodes)
    {id : Int32} {i : Nat} :
    HasAt p p.listing n id i ↔ ∃ f, p.opened[i]? = some (id, n, f) := by
  constructor
  · rintro ⟨hdevice, -, hmotor⟩
    rw [getElem?_motors, Option.map_eq_some_iff] at hmotor
    obtain ⟨⟨id', m, f⟩, ho, hpath⟩ := hmotor
    have hm : m ∈ p.nodes := (mem_opened_iff.1 (List.mem_of_getElem? ho)).1
    obtain rfl := List.inj_on_of_nodup_map hnames hm hn (name_eq_of_fresh hpath)
    rw [getElem?_devices, ho, Option.map_some, Option.map_some, Facts.describe_platformId]
      at hdevice
    obtain rfl : id' = id := Option.some.inj hdevice
    exact ⟨f, ho⟩
  · rintro ⟨f, ho⟩
    have hf := (mem_opened_iff.1 (List.mem_of_getElem? ho)).2.2
    refine ⟨?_, fun facts hfacts => ?_, ?_⟩
    · rw [getElem?_devices, ho, Option.map_some, Option.map_some, Facts.describe_platformId]
    · rw [getElem?_devices, ho, Option.map_some, Option.some.inj (hf.symm.trans hfacts)]
    · rw [getElem?_motors, ho, Option.map_some]

theorem exists_hasAt_iff (hnames : (p.nodes.map Node.name).Nodup) {n : Node} (hn : n ∈ p.nodes)
    {id : Int32} :
    (∃ i, HasAt p p.listing n id i) ↔ n.facts.isSome ∧ Numbered n.name id := by
  simp only [hasAt_listing_iff hnames hn]
  constructor
  · rintro ⟨i, f, ho⟩
    obtain ⟨-, hid, hf⟩ := mem_opened_iff.1 (List.mem_of_getElem? ho)
    exact ⟨hf ▸ rfl, hid⟩
  · rintro ⟨hopen, hid⟩
    obtain ⟨f, hf⟩ := Option.isSome_iff_exists.1 hopen
    obtain ⟨i, hi⟩ := List.mem_iff_getElem?.1 (mem_opened_iff.2 ⟨hn, hid, hf⟩)
    exact ⟨i, f, hi⟩

theorem HasAt.unique (hnames : (p.nodes.map Node.name).Nodup) {n : Node} (hn : n ∈ p.nodes)
    {id id' : Int32} {i j : Nat} (hi : HasAt p p.listing n id i)
    (hj : HasAt p p.listing n id' j) : i = j := by
  obtain ⟨f, hi⟩ := (hasAt_listing_iff hnames hn).1 hi
  obtain ⟨g, hj⟩ := (hasAt_listing_iff hnames hn).1 hj
  have heq := opened_eq_of_node (List.mem_of_getElem? hi) (List.mem_of_getElem? hj) rfl
  have hlt := (List.getElem?_eq_some_iff.1 hi).1
  exact (List.getElem?_inj hlt (nodup_opened hnames).of_map).1 (hi.trans (heq ▸ hj.symm))

theorem hasAt_of_device (hnames : (p.nodes.map Node.name).Nodup) {i : Nat} {d : Descriptor}
    (h : p.listing.devices[i]? = some d) :
    ∃ n ∈ p.nodes, HasAt p p.listing n d.platformId i := by
  rw [getElem?_devices, Option.map_eq_some_iff] at h
  obtain ⟨⟨id, n, f⟩, ho, rfl⟩ := h
  have hn := (mem_opened_iff.1 (List.mem_of_getElem? ho)).1
  rw [Facts.describe_platformId]
  exact ⟨n, hn, (hasAt_listing_iff hnames hn).2 ⟨f, ho⟩⟩

theorem ascending_iff (hnames : (p.nodes.map Node.name).Nodup) :
    (p.listing.devices.map Descriptor.platformId).Pairwise (· < ·) ↔ p.NumberedOnce := by
  rw [ids_listing]
  constructor
  · intro hlt m hm n hn hmopen hnopen id hmid hnid
    obtain ⟨f, hf⟩ := Option.isSome_iff_exists.1 hmopen
    obtain ⟨g, hg⟩ := Option.isSome_iff_exists.1 hnopen
    have hnodup : (p.opened.map (·.1)).Nodup := hlt.imp Int32.ne_of_lt
    have heq := List.inj_on_of_nodup_map hnodup (mem_opened_iff.2 ⟨hm, hmid, hf⟩)
      (mem_opened_iff.2 ⟨hn, hnid, hg⟩) rfl
    exact congrArg (·.2.1) heq
  · intro honce
    have hne : p.opened.Pairwise (· ≠ ·) := (nodup_opened hnames).of_map
    rw [List.pairwise_map]
    refine (opened_ascending p).and hne |>.imp_of_mem ?_
    intro o o' ho ho' h
    exact Int32.lt_of_le_of_ne h.1 fun hid => h.2 (honce.eq_of_mem ho ho' hid)

/-! ## Any order of the files -/

theorem ids_listing_of_perm (h : nodes.Perm p.nodes) :
    { p with nodes }.listing.devices.map Descriptor.platformId =
      p.listing.devices.map Descriptor.platformId := by
  rw [ids_listing, ids_listing]
  refine ((opened_perm h).map _).eq_of_pairwise (fun _ _ _ _ => Int32.le_antisymm) ?_ ?_
  · exact List.pairwise_map.2 (opened_ascending _)
  · exact List.pairwise_map.2 (opened_ascending p)

theorem listing_eq_of_perm (honce : p.NumberedOnce) (h : nodes.Perm p.nodes) :
    { p with nodes }.listing = p.listing := by
  rw [listing, opened_eq_of_perm honce h]
  rfl

theorem not_sublist_swap {names : List String} {x y : String} (h : names.Nodup)
    (hxy : [x, y].Sublist names) : ¬ [y, x].Sublist names := by
  induction names with
  | nil => cases hxy
  | cons name names ih => grind

theorem exists_perm_pair {m n : Node} (hne : m ≠ n) (hm : m ∈ nodes) (hn : n ∈ nodes) :
    ∃ rest, (m :: n :: rest).Perm nodes := by
  have hpair : [m, n].Subperm nodes :=
    List.subperm_of_subset (by simpa using hne) (by simp [hm, hn])
  obtain ⟨pair, hperm, hsub⟩ := hpair
  obtain ⟨rest, hrest⟩ := hsub.exists_perm_append
  exact ⟨rest, (hperm.symm.append_right rest).trans hrest.symm⟩

/-- The motors of a listing tell its files. -/
theorem opened_names_eq {nodes' : List Node}
    (h : { p with nodes }.listing = { p with nodes := nodes' }.listing) :
    ({ p with nodes } : Platform).opened.map (·.2.1.name) =
      ({ p with nodes := nodes' } : Platform).opened.map (·.2.1.name) := by
  have hinj : Function.Injective fun name => Rumble.fresh (p.path ++ "/" ++ name) := by
    intro a b hab
    exact name_eq_of_fresh (p := p) (m := ⟨a, none⟩) (n := ⟨b, none⟩) hab
  refine List.map_injective_iff.2 hinj ?_
  rw [List.map_map, List.map_map]
  exact congrArg Listing.motors h

/-- If the order of the files does not show in the listing, their numbers are different: two files
with one number are listed in the order in which they were told. -/
theorem numberedOnce_of_listing_eq (hnames : (p.nodes.map Node.name).Nodup)
    (h : ∀ nodes, nodes.Perm p.nodes → { p with nodes }.listing = p.listing) : p.NumberedOnce := by
  intro m hm n hn hmopen hnopen id hmid hnid
  by_contra hne
  obtain ⟨f, hf⟩ := Option.isSome_iff_exists.1 hmopen
  obtain ⟨g, hg⟩ := Option.isSome_iff_exists.1 hnopen
  -- Told in front of all others, in one order and in the other, they are listed in both orders.
  obtain ⟨rest, hperm⟩ := exists_perm_pair hne hm hn
  have hperm' : (n :: m :: rest).Perm p.nodes := (List.Perm.swap m n rest).trans hperm
  have hlisted := opened_names_eq ((h _ hperm).trans (h _ hperm').symm)
  have hmn := (opened_stable (p := { p with nodes := m :: n :: rest }) hmid hnid hf hg
    (by simp)).map (·.2.1.name)
  have hnm := (opened_stable (p := { p with nodes := n :: m :: rest }) hnid hmid hg hf
    (by simp)).map (·.2.1.name)
  have hnodup := nodup_opened (p := { p with nodes := m :: n :: rest })
    ((hperm.map Node.name).nodup_iff.2 hnames)
  exact not_sublist_swap hnodup hmn (hlisted ▸ hnm)

theorem PlainlyNumbered.numberedOnce (h : p.PlainlyNumbered)
    (hnames : (p.nodes.map Node.name).Nodup) : p.NumberedOnce := by
  intro m hm n hn hmopen hnopen id hmid hnid
  obtain ⟨j, hj⟩ := h m hm hmopen id hmid
  obtain ⟨k, hk⟩ := h n hn hnopen id hnid
  have hjk : (j : Int) = k :=
    (numbered_ofNat_iff.1 (hj ▸ hmid)).symm.trans (numbered_ofNat_iff.1 (hk ▸ hnid))
  obtain rfl := Int.ofNat.inj hjk
  exact List.inj_on_of_nodup_map hnames hm hn (hj.trans hk.symm)

/-- A directory that can be read is listed, in any order of its files. A file has one place in the
listing, under the number in its name, if it can be opened, and no place if it cannot be or has no
number; a device that is listed is one of the files. The numbers ascend and are the same in any
order of the files. They ascend strictly exactly if no two files have the same, and this is also
exactly when the order of the files does not show. It is so if the numbers are written without signs
and needless zeros. -/
theorem list_follows_numbers {p : Platform} (hdir : p.listFault = none)
    (hnames : (p.nodes.map Node.name).Nodup) :
    ∃ l, p.list = .ok l ∧
      (∀ n ∈ p.nodes, ∀ id, (∃ i, p.HasAt l n id i) ↔ n.facts.isSome ∧ Numbered n.name id) ∧
      (∀ n ∈ p.nodes, ∀ id id' i j, p.HasAt l n id i → p.HasAt l n id' j → i = j) ∧
      (∀ i d, l.devices[i]? = some d → ∃ n ∈ p.nodes, p.HasAt l n d.platformId i) ∧
      (l.devices.map Descriptor.platformId).Pairwise (· ≤ ·) ∧
      (∀ nodes, nodes.Perm p.nodes → ∃ l', { p with nodes }.list = .ok l' ∧
        l'.devices.map Descriptor.platformId = l.devices.map Descriptor.platformId) ∧
      ((l.devices.map Descriptor.platformId).Pairwise (· < ·) ↔ p.NumberedOnce) ∧
      ((∀ nodes, nodes.Perm p.nodes → { p with nodes }.list = .ok l) ↔ p.NumberedOnce) ∧
      (p.PlainlyNumbered → p.NumberedOnce ∧ ∀ n ∈ p.nodes, ∀ id,
        (∃ i, p.HasAt l n id i) ↔
          n.facts.isSome ∧ ∃ k : Nat, id.toInt = k ∧ n.name = "event" ++ Numeral.ofNat k) := by
  have hlist (nodes : List Node) : { p with nodes }.list = .ok { p with nodes }.listing :=
    list_eq_ok hdir
  refine ⟨p.listing, list_eq_ok hdir, fun n hn id => exists_hasAt_iff hnames hn,
    fun n hn id id' i j hi hj => hi.unique hnames hn hj, fun i d h => hasAt_of_device hnames h, ?_,
    fun nodes h => ⟨_, hlist nodes, ids_listing_of_perm h⟩, ascending_iff hnames, ?_,
    fun hplain => ⟨hplain.numberedOnce hnames, fun n hn id => ?_⟩⟩
  · rw [ids_listing]
    exact List.pairwise_map.2 (opened_ascending p)
  · simp only [hlist, Except.ok.injEq]
    exact ⟨numberedOnce_of_listing_eq hnames, fun honce nodes h => listing_eq_of_perm honce h⟩
  · rw [exists_hasAt_iff hnames hn]
    refine and_congr_right fun hopen => ⟨fun hid => ?_, ?_⟩
    · obtain ⟨k, hk⟩ := hplain n hn hopen id hid
      exact ⟨k, numbered_ofNat_iff.1 (hk ▸ hid), hk⟩
    · rintro ⟨k, hid, hk⟩
      rw [hk]
      exact numbered_ofNat_iff.2 hid

/-- What is said of a device that has nothing but a name. -/
def bareFacts (name : String) : Facts := ⟨name, none, none, none, []⟩

/-- A directory with two devices, told in descending order of their numbers, between files that are
no devices: one has no number, and one cannot be opened. -/
def mixed : Platform :=
  ofNodes "/dev/input" .directory
    [⟨"event12", some (bareFacts "Pad")⟩, ⟨"mouse0", some (bareFacts "Mouse")⟩, ⟨"event3", none⟩,
      ⟨"event2", some (bareFacts "Ball")⟩]

theorem mixed_listed_in_one_order :
    mixed.listFault = none ∧ (mixed.nodes.map Node.name).Nodup ∧ mixed.PlainlyNumbered ∧
      ∃ l, (∃ i, mixed.HasAt l ⟨"event12", some (bareFacts "Pad")⟩ 12 i) ∧
        (∃ i, mixed.HasAt l ⟨"event2", some (bareFacts "Ball")⟩ 2 i) ∧
        (¬ ∃ i, mixed.HasAt l ⟨"event3", none⟩ 3 i) ∧
        (l.devices.map Descriptor.platformId).Pairwise (· < ·) ∧
        ∀ nodes, nodes.Perm mixed.nodes → { mixed with nodes }.list = .ok l := by
  have hdir : mixed.listFault = none := by decide
  have hnames : (mixed.nodes.map Node.name).Nodup := by decide
  have hplain : mixed.PlainlyNumbered := by
    intro n hn hopen id hid
    simp only [mixed, ofNodes, List.mem_cons, List.not_mem_nil, or_false] at hn
    rcases hn with rfl | rfl | rfl | rfl
    · exact ⟨12, by decide⟩
    · have hno := nodeNumber?_eq_some_iff.2 hid
      exact absurd hno (by rw [show nodeNumber? "mouse0" = none by decide]; simp)
    · cases hopen
    · exact ⟨2, by decide⟩
  obtain ⟨l, -, -, -, -, -, -, hascend, horder, hlisted⟩ := list_follows_numbers hdir hnames
  obtain ⟨honce, hlisted⟩ := hlisted hplain
  refine ⟨hdir, hnames, hplain, l, ?_, ?_, ?_, hascend.2 honce, horder.2 honce⟩
  · exact (hlisted _ (by simp [mixed, ofNodes]) 12).2 ⟨rfl, 12, rfl, by decide⟩
  · exact (hlisted _ (by simp [mixed, ofNodes]) 2).2 ⟨rfl, 2, rfl, by decide⟩
  · intro h
    exact absurd ((hlisted _ (by simp [mixed, ofNodes]) 3).1 h).1 (by decide)

/-- The numbers and names of the devices that a directory lists. -/
def shown? (p : Platform) : Option (List (Int32 × String)) :=
  p.list.toOption.map fun l => l.devices.map fun d => (d.platformId, d.name)

/-- A directory with files whose numbers are the same, though their names are not. -/
def twins : Platform :=
  ofNodes "/dev/input" .directory
    [⟨"event7", some (bareFacts "Pad")⟩, ⟨"event07", some (bareFacts "Ball")⟩]

/-- Files with different names may be listed under one number, and then the order in which the
directory tells them shows. -/
theorem twins_listed_as_told :
    (twins.nodes.map Node.name).Nodup ∧ twins.shown? = some [(7, "Pad"), (7, "Ball")] ∧
      { twins with nodes := twins.nodes.reverse }.shown? = some [(7, "Ball"), (7, "Pad")] := by
  refine ⟨by decide, ?_, ?_⟩
  -- The numbers ascend in both orders, so there is nothing to sort.
  all_goals
    rw [shown?, list_eq_ok (by decide), listing, opened, List.mergeSort_of_pairwise (by decide)]
    decide

end Platform

end EventNodes

end InputHub
