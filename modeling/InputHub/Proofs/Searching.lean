import InputHub.Proofs.Numbering

/-!
# Searching for a free number

A free number for a source and a name is found by trying 0, then 1 and so on, in words of 32 bits,
up to the first that is not taken. The search itself has no bound on its rounds; what ends it is
that the numbers below the one tried are all taken, and that there are only so many of these:

* `Search.next` is one round, which may also run past the last word, and `Search.result?` is what
  all rounds together come to;
* `Search.after_eq_trying`, `Search.after_eq_found`: where a search stands while all numbers so far
  are taken, and from the first free one on;
* `Search.result?_after`: the rounds that are over do not show in what a search comes to;
* `Snapshot.search_finds_lowest`: every search ends, without running past the last word, at the
  number that new devices get.
-/

namespace InputHub.Snapshot

/-- Where a search stands: at a number that it tries next, at a qualifier that is free, or past the
last word. -/
inductive Search where
  | trying (n : UInt32)
  | found (q : Qualifier)
  | overrun
  deriving DecidableEq

namespace Search

section

variable (taken : List Qualifier) (source name : String)

/-- One round of a search. A search that has ended stays where it is. -/
def next : Search → Search
  | trying n =>
    if (⟨source, n, name⟩ : Qualifier) ∈ taken then
      if n.toNat + 1 < UInt32.size then trying (n + 1) else overrun
    else found ⟨source, n, name⟩
  | found q => found q
  | overrun => overrun

/-- Where a search from 0 stands after some rounds. -/
def after (rounds : Nat) : Search := (next taken source name)^[rounds] (trying 0)

/-- How many numbers are left to try. -/
def left : Search → Nat
  | trying n => UInt32.size - n.toNat
  | found _ | overrun => 0

theorem left_next_lt (n : UInt32) : (next taken source name (trying n)).left < (trying n).left := by
  have hsize : n.toNat < UInt32.size := n.toNat_lt_size
  simp only [next]
  split
  · split
    · rename_i hfits
      have hnext : (n + 1).toNat = n.toNat + 1 := by
        rw [UInt32.toNat_add, UInt32.toNat_one, Nat.mod_eq_of_lt hfits]
      simp only [left, hnext]
      omega
    · exact Nat.sub_pos_of_lt hsize
  · exact Nat.sub_pos_of_lt hsize

/-- The qualifier that a search ends at, if it does not run past the last word. -/
def result? (s : Search) : Option Qualifier :=
  match s with
  | trying n => result? (next taken source name (trying n))
  | found q => some q
  | overrun => none
termination_by s.left
decreasing_by exact left_next_lt taken source name n

end

variable {taken : List Qualifier} {source name : String}

theorem after_succ (rounds : Nat) :
    after taken source name (rounds + 1) =
      next taken source name (after taken source name rounds) :=
  Function.iterate_succ_apply' ..

/-- While all numbers so far are taken, as many rounds have passed as the number says that is tried
next. -/
theorem after_eq_trying {rounds : Nat} (hsize : rounds < UInt32.size)
    (hbelow : ∀ k < rounds, (⟨source, UInt32.ofNat k, name⟩ : Qualifier) ∈ taken) :
    after taken source name rounds = trying (UInt32.ofNat rounds) := by
  induction rounds with
  | zero => rfl
  | succ n ih =>
    have htried : after taken source name n = trying (UInt32.ofNat n) :=
      ih (by omega) fun k hk => hbelow k (by omega)
    have hfits : (UInt32.ofNat n).toNat + 1 < UInt32.size := by
      rw [UInt32.toNat_ofNat_of_lt' (by omega)]
      omega
    rw [after_succ, htried, next, if_pos (hbelow n (by omega)), if_pos hfits, ← UInt32.ofNat_one,
      ← UInt32.ofNat_add]

/-- The first free number ends the search for good. -/
theorem after_eq_found {m : Nat} (hsize : m < UInt32.size)
    (hfree : (⟨source, UInt32.ofNat m, name⟩ : Qualifier) ∉ taken)
    (hbelow : ∀ k < m, (⟨source, UInt32.ofNat k, name⟩ : Qualifier) ∈ taken) {rounds : Nat}
    (hrounds : m < rounds) :
    after taken source name rounds = found ⟨source, UInt32.ofNat m, name⟩ := by
  induction rounds, hrounds using Nat.le_induction with
  | base => rw [after_succ, after_eq_trying hsize hbelow, next, if_neg hfree]
  | succ n _ ih => rw [after_succ, ih, next]

theorem result?_next (s : Search) :
    result? taken source name (next taken source name s) = result? taken source name s := by
  cases s with
  | trying n =>
    conv_rhs => rw [result?]
  | found | overrun => rw [next]

theorem result?_after (rounds : Nat) :
    result? taken source name (after taken source name rounds) =
      result? taken source name (trying 0) := by
  induction rounds with
  | zero => rfl
  | succ n ih => rw [after_succ, result?_next, ih]

/-- What is taken under other sources or names does not show. -/
theorem after_congr {others : List Qualifier}
    (h : ∀ n, (⟨source, n, name⟩ : Qualifier) ∈ others ↔ (⟨source, n, name⟩ : Qualifier) ∈ taken)
    (rounds : Nat) : after others source name rounds = after taken source name rounds := by
  have hnext : next others source name = next taken source name := by
    funext s
    cases s with
    | trying n => simp only [next, h]
    | found | overrun => rfl
  rw [after, after, hnext]

end Search

variable {taken : List Qualifier} {source name : String}

theorem held_congr {others : List Qualifier}
    (h : ∀ n, (⟨source, n, name⟩ : Qualifier) ∈ others ↔ (⟨source, n, name⟩ : Qualifier) ∈ taken) :
    held others source name = held taken source name := by
  rw [held, held]
  congr 1
  ext q
  obtain ⟨source', n, name'⟩ := q
  simp only [Finset.mem_filter, List.mem_toFinset]
  refine and_congr_left fun hpair => ?_
  obtain ⟨rfl, rfl⟩ := hpair
  exact h n

/-- A search stands at one number after the other up to the one that new devices get, and has ended
there from the next round on. -/
theorem search_spec (h : held taken source name < UInt32.size) :
    (∀ rounds ≤ (lowestFree taken source name).id.toNat,
      Search.after taken source name rounds = .trying (UInt32.ofNat rounds)) ∧
    ∀ rounds, (lowestFree taken source name).id.toNat < rounds →
      Search.after taken source name rounds = .found (lowestFree taken source name) := by
  obtain ⟨m, hm, he, hfree, hbelow⟩ := lowestFree_spec h
  have hsize : m < UInt32.size := hm.trans_lt h
  have hid : (lowestFree taken source name).id.toNat = m := by
    rw [he]
    exact UInt32.toNat_ofNat_of_lt' hsize
  rw [hid, he]
  refine ⟨fun rounds hrounds => ?_, fun rounds hrounds => ?_⟩
  · exact Search.after_eq_trying (by omega) fun k hk => hbelow k (by omega)
  · exact Search.after_eq_found hsize hfree hbelow hrounds

theorem result?_eq (h : held taken source name < UInt32.size) :
    Search.result? taken source name (.trying 0) = some (lowestFree taken source name) := by
  have hfound := (search_spec h).2 _ (Nat.lt_succ_self _)
  rw [← Search.result?_after, hfound, Search.result?]

/-- While fewer than `2 ^ 32` qualifiers of a source and a name are taken, a search for a free one
tries each number once in ascending order, ends, and never runs past the last word. It ends at the
qualifier that a new device gets: that with the least number which is not taken with the source and
the name, at most as many as are taken with them. Qualifiers of other sources or names, and how
often and in which order any are listed, do not matter. -/
theorem search_finds_lowest (h : held taken source name < UInt32.size) :
    let q := lowestFree taken source name
    (∀ rounds ≤ q.id.toNat,
      Search.after taken source name rounds = .trying (UInt32.ofNat rounds)) ∧
    (∀ rounds, q.id.toNat < rounds → Search.after taken source name rounds = .found q) ∧
    (∀ rounds, Search.after taken source name rounds ≠ .overrun) ∧
    Search.result? taken source name (.trying 0) = some q ∧
    q.source = source ∧ q.name = name ∧ q ∉ taken ∧
    (∀ n < q.id, (⟨source, n, name⟩ : Qualifier) ∈ taken) ∧
    q.id.toNat ≤ held taken source name ∧
    ∀ others : List Qualifier,
      (∀ n, (⟨source, n, name⟩ : Qualifier) ∈ others ↔ (⟨source, n, name⟩ : Qualifier) ∈ taken) →
      lowestFree others source name = q ∧
        ∀ rounds,
          Search.after others source name rounds = Search.after taken source name rounds := by
  intro q
  obtain ⟨htrying, hfound⟩ := search_spec h
  obtain ⟨m, hm, he, hfree, hbelow⟩ := lowestFree_spec h
  have hid : q.id.toNat = m := by
    rw [show q = _ from he]
    exact UInt32.toNat_ofNat_of_lt' (hm.trans_lt h)
  refine ⟨htrying, hfound, fun rounds => ?_, result?_eq h, (lowestFree_pair ..).1,
    (lowestFree_pair ..).2, lowestFree_not_mem h, fun n hn => ?_, hid.trans_le hm,
    fun others hothers => ?_⟩
  · rcases Nat.lt_or_ge q.id.toNat rounds with hlt | hle
    · rw [hfound rounds hlt]
      exact Search.noConfusion
    · rw [htrying rounds hle]
      exact Search.noConfusion
  · have hlt : n.toNat < m := by
      rw [← hid]
      exact UInt32.lt_iff_toNat_lt.1 hn
    have hmem := hbelow n.toNat hlt
    rwa [UInt32.ofNat_toNat] at hmem
  · -- Both searches stand at the same place, and both have ended once all words are tried.
    have hsame := Search.after_congr hothers
    have hend := (search_spec (held_congr hothers ▸ h)).2 UInt32.size (UInt32.toNat_lt_size _)
    rw [hsame, hfound UInt32.size (UInt32.toNat_lt_size _), Search.found.injEq] at hend
    exact ⟨hend.symm, hsame⟩

/-- Pads with the numbers 0, 1 and 3, one of them listed twice, and others with the number 2. -/
def pads : List Qualifier :=
  [⟨"Mock", 1, "Pad"⟩, ⟨"Mock", 2, "Stick"⟩, ⟨"Mock", 3, "Pad"⟩, ⟨"Mock", 0, "Pad"⟩,
    ⟨"evdev", 2, "Pad"⟩, ⟨"Mock", 1, "Pad"⟩]

theorem search_finds_gap :
    held pads "Mock" "Pad" = 3 ∧ 3 < UInt32.size ∧
    (∀ rounds ≤ 2, Search.after pads "Mock" "Pad" rounds = .trying (UInt32.ofNat rounds)) ∧
    (∀ rounds, 2 < rounds → Search.after pads "Mock" "Pad" rounds = .found ⟨"Mock", 2, "Pad"⟩) ∧
    lowestFree [⟨"Mock", 3, "Pad"⟩, ⟨"Mock", 0, "Pad"⟩, ⟨"Mock", 1, "Pad"⟩] "Mock" "Pad" =
      ⟨"Mock", 2, "Pad"⟩ := by
  have hheld : held pads "Mock" "Pad" = 3 := by decide
  have hfound : lowestFree pads "Mock" "Pad" = ⟨"Mock", 2, "Pad"⟩ := by decide
  have hfew : held pads "Mock" "Pad" < UInt32.size := by rw [hheld]; decide
  have hsearch := search_finds_lowest hfew
  rw [hfound] at hsearch
  obtain ⟨htrying, hends, -, -, -, -, -, -, -, hothers⟩ := hsearch
  exact ⟨hheld, by decide, htrying, hends, (hothers _ fun n => by grind [pads]).1⟩

end InputHub.Snapshot
