import Mathlib.Data.List.Basic
import InputHub.Qualifier

/-!
# The text of a qualifier tells the qualifier

A qualifier is written as its source, its number and its name with slashes between them. The digits
of a number are no slashes, so the first two slashes of the text are those that the writer put
there, as long as the source has none:

* `Numeral.ofNat_injective`: different numbers are written differently;
* `Qualifier.cut_append`: cutting at the first slash undoes writing one;
* `Qualifier.render_injective`: qualifiers whose sources have no slash and that read alike are
  equal, whatever their names are;
* `Qualifier.eq_of_render`: so are qualifiers with the same source and name, whatever these are.
-/

namespace InputHub

namespace Numeral

theorem toList_ofNat (n : Nat) : (ofNat n).toList = Nat.toDigits 10 n := by
  simp [ofNat]

/-- A written number is read again from its digits. -/
theorem ofDigitChars_ofNat (n : Nat) : Nat.ofDigitChars 10 (ofNat n).toList 0 = n := by
  rw [toList_ofNat, Nat.ofDigitChars_ten_toDigits]

theorem ofNat_injective : Function.Injective ofNat := by
  intro m n h
  rw [← ofDigitChars_ofNat m, h, ofDigitChars_ofNat]

/-- A written number has digits only. -/
theorem isDigit_of_mem_ofNat {n : Nat} {c : Char} (h : c ∈ (ofNat n).toList) : c.isDigit := by
  rw [toList_ofNat] at h
  exact Nat.isDigit_of_mem_toDigits (by decide) (by decide) h

theorem slash_not_mem_ofNat (n : Nat) : '/' ∉ (ofNat n).toList :=
  fun h => absurd (isDigit_of_mem_ofNat h) (by decide)

end Numeral

/-- A source without a slash: one whose end can be told in a text. -/
def PlainSource (source : String) : Prop := '/' ∉ source.toList

instance (source : String) : Decidable (PlainSource source) :=
  inferInstanceAs (Decidable ('/' ∉ source.toList))

namespace Qualifier

theorem cut_append {xs : List Char} (h : '/' ∉ xs) (ys : List Char) :
    cut (xs ++ '/' :: ys) = some (xs, ys) := by
  induction xs with
  | nil => simp [cut]
  | cons c xs ih =>
    simp only [List.mem_cons, not_or] at h
    simp [cut, ih h.2, Ne.symm h.1]

theorem toList_render (q : Qualifier) :
    q.render.toList =
      q.source.toList ++ '/' :: ((Numeral.ofNat q.id.toNat).toList ++ '/' :: q.name.toList) := by
  simp [render, String.toList_append]

/-- The source is what stands before the first slash of the text. -/
theorem cut_render {q : Qualifier} (h : PlainSource q.source) :
    cut q.render.toList =
      some (q.source.toList, (Numeral.ofNat q.id.toNat).toList ++ '/' :: q.name.toList) := by
  rw [toList_render, cut_append h]

/-- Qualifiers whose sources have no slash can be told from their texts. -/
theorem render_injective {q r : Qualifier} (hq : PlainSource q.source) (hr : PlainSource r.source)
    (h : q.render = r.render) : q = r := by
  have hc : cut q.render.toList = cut r.render.toList := by rw [h]
  rw [cut_render hq, cut_render hr, Option.some.injEq, Prod.mk.injEq] at hc
  obtain ⟨hsource, hrest⟩ := hc
  -- The rest of both texts is cut once more, after the digits of the number.
  have hn := congrArg cut hrest
  rw [cut_append (Numeral.slash_not_mem_ofNat _), cut_append (Numeral.slash_not_mem_ofNat _),
    Option.some.injEq, Prod.mk.injEq] at hn
  obtain ⟨hid, hname⟩ := hn
  have hid : q.id = r.id :=
    UInt32.toNat_inj.1 (Numeral.ofNat_injective (String.toList_injective hid))
  cases q
  cases r
  simp_all [String.toList_inj]

/-- Among qualifiers of one source and one name the text tells the number. -/
theorem eq_of_render {q r : Qualifier} (hsource : q.source = r.source) (hname : q.name = r.name)
    (h : q.render = r.render) : q = r := by
  have hl := congrArg String.toList h
  rw [toList_render, toList_render, hsource, hname, List.append_cancel_left_eq, List.cons.injEq,
    List.append_cancel_right_eq] at hl
  have hid : q.id = r.id :=
    UInt32.toNat_inj.1 (Numeral.ofNat_injective (String.toList_injective hl.2))
  cases q
  cases r
  simp_all

end Qualifier

end InputHub
