import Mathlib.Data.Set.Function
import InputHub.Proofs.Rendering

/-!
# Which qualifiers are read back

The reader of qualifiers cuts a text at its first two slashes, whoever wrote it. What it hands back
therefore never has a slash in its source, and that a source is there is checked:

* `Numeral.uint32?_ofNat`: the digits of a number are read as that number;
* `Qualifier.cut_eq_some_iff`: cutting at the first slash is undone by writing one, and by nothing
  else;
* `Qualifier.ofChars?_eq_some_iff` says of every text which qualifier is read from it;
* `Qualifier.parse_render_iff_readable`: a written qualifier is read back exactly if its source is
  neither empty nor cut short by a slash.
-/

namespace InputHub

namespace Numeral

/-- Digits are read onto a number as in positional notation. -/
theorem readOnto_of_isDigit {cs : List Char} (h : ∀ c ∈ cs, c.isDigit) (acc : Nat) :
    readOnto acc cs = some (Nat.ofDigitChars 10 cs acc) := by
  induction cs generalizing acc with
  | nil => rfl
  | cons c cs ih =>
    have hc : c.isDigit := h c List.mem_cons_self
    have hcs : ∀ x ∈ cs, x.isDigit := fun x hx => h x (List.mem_cons_of_mem c hx)
    rw [readOnto, if_pos hc, ih hcs]
    rfl

/-- A number is written with a digit in front, and so without a sign. -/
theorem exists_toList_ofNat (n : Nat) : ∃ c cs, (ofNat n).toList = c :: cs ∧ c ≠ '+' := by
  cases h : (ofNat n).toList with
  | nil => exact absurd (toList_ofNat n ▸ h) (Nat.toDigits_ne_nil)
  | cons c cs =>
    refine ⟨c, cs, rfl, ?_⟩
    rintro rfl
    exact absurd (isDigit_of_mem_ofNat (h ▸ List.mem_cons_self)) (by decide)

theorem unsigned?_ofNat (n : Nat) : unsigned? (ofNat n).toList = some n := by
  have hread := readOnto_of_isDigit (fun c hc => isDigit_of_mem_ofNat (n := n) hc) 0
  rw [ofDigitChars_ofNat] at hread
  obtain ⟨c, cs, heq, hplus⟩ := exists_toList_ofNat n
  rw [heq] at hread ⊢
  rw [unsigned?, natural?, hread]
  exact fun _ h => hplus (List.cons.inj h).1

theorem uint32?_ofNat (n : UInt32) : uint32? (ofNat n.toNat).toList = some n := by
  rw [uint32?, unsigned?_ofNat, Option.bind_some, if_pos n.toNat_lt, UInt32.ofNat_toNat]

end Numeral

namespace Qualifier

theorem cut_eq_some_iff {cs xs ys : List Char} :
    cut cs = some (xs, ys) ↔ cs = xs ++ '/' :: ys ∧ '/' ∉ xs := by
  constructor
  · intro h
    induction cs generalizing xs with
    | nil => cases h
    | cons c cs ih =>
      rw [cut] at h
      split at h
      · rename_i hc
        obtain ⟨rfl, rfl⟩ := Prod.mk.inj (Option.some.inj h)
        simp [hc]
      · rename_i hc
        obtain ⟨⟨xs', ys'⟩, hcut, heq⟩ := Option.map_eq_some_iff.1 h
        obtain ⟨rfl, rfl⟩ := Prod.mk.inj heq
        obtain ⟨hcs, hxs⟩ := ih hcut
        exact ⟨congrArg (c :: ·) hcs, by simp [Ne.symm hc, hxs]⟩
  · rintro ⟨rfl, hxs⟩
    exact cut_append hxs ys

/-- What is read from a text: the source and the number stand before its first two slashes, and the
name is all that follows. -/
theorem ofChars?_eq_some_iff {cs : List Char} {q : Qualifier} :
    ofChars? cs = some q ↔ ∃ number,
      cs = q.source.toList ++ '/' :: (number ++ '/' :: q.name.toList) ∧
      q.source ≠ "" ∧ PlainSource q.source ∧ '/' ∉ number ∧
      Numeral.uint32? number = some q.id := by
  constructor
  · intro h
    simp only [ofChars?, Option.bind_eq_bind, Option.bind_eq_some_iff, Prod.exists] at h
    obtain ⟨source, rest, hsource, number, name, hnumber, h⟩ := h
    split at h
    · cases h
    · rename_i hne
      obtain ⟨id, hid, h⟩ := Option.bind_eq_some_iff.1 h
      obtain rfl := Option.some.inj h
      obtain ⟨rfl, hplain⟩ := cut_eq_some_iff.1 hsource
      obtain ⟨rfl, hdigits⟩ := cut_eq_some_iff.1 hnumber
      refine ⟨number, by simp, ?_, by simpa [PlainSource] using hplain, hdigits, hid⟩
      simpa using hne
  · rintro ⟨number, rfl, hne, hplain, hdigits, hid⟩
    simp [ofChars?, cut_append hplain, cut_append hdigits, hne, hid]

theorem parse_eq_ok_iff {s : String} {q : Qualifier} :
    parse s = .ok q ↔ ofChars? s.toList = some q := by
  rw [parse]
  cases ofChars? s.toList <;> simp

/-- A written qualifier is read back exactly if it has a source and no slash in it. Whatever the
names are, and also without a source, no two qualifiers with sources that have no slash are written
alike. -/
theorem parse_render_iff_readable :
    (∀ q : Qualifier, parse q.render = .ok q ↔ q.source ≠ "" ∧ '/' ∉ q.source.toList) ∧
    Set.InjOn render {q | '/' ∉ q.source.toList} := by
  refine ⟨fun q => ?_, fun q hq r hr h => render_injective hq hr h⟩
  rw [parse_eq_ok_iff, ofChars?_eq_some_iff]
  constructor
  · rintro ⟨_, _, hne, hplain, _⟩
    exact ⟨hne, hplain⟩
  · rintro ⟨hne, hplain⟩
    exact ⟨(Numeral.ofNat q.id.toNat).toList, toList_render q, hne, hplain,
      Numeral.slash_not_mem_ofNat _, Numeral.uint32?_ofNat q.id⟩

/-- A slash in the source is taken for its end, and the digits that follow for the number. -/
example : parse (render ⟨"hid/0", 7, "ball"⟩) = .ok ⟨"hid", 0, "7/ball"⟩ := by
  decide +kernel

end Qualifier

end InputHub
