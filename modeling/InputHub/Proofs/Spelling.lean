import Mathlib.Algebra.Group.Nat.Defs
import InputHub.Proofs.Reading

/-!
# The texts that are qualifiers

A qualifier is read from a source, a number and a name with slashes between them. The number may
have a plus sign and any zeros in front, so one qualifier has many texts, of which the writer of
qualifiers uses one:

* `Numeral.unsigned?_eq_some_iff`: which texts are read as numbers, and as which;
* `Numeral.Spells.eq_ofNat_iff`: a number is written as its only numeral without a sign and without
  needless zeros;
* `Qualifier.parse_follows_form`: the texts that are read as qualifiers are those of this form, and
  writing what was read gives the text back exactly if its number is the writer's.
-/

namespace InputHub

namespace Numeral

/-- A numeral spells a number: it is one or more digits, behind at most one plus sign, with that
value in positional notation. -/
def Spells (cs : List Char) (n : Nat) : Prop :=
  ∃ ds, (cs = ds ∨ cs = '+' :: ds) ∧ ds ≠ [] ∧ (∀ c ∈ ds, c.isDigit) ∧
    Nat.ofDigitChars 10 ds 0 = n

/-- A numeral without a sign and without needless zeros in front. -/
def Canonical (cs : List Char) : Prop :=
  cs.head? ≠ some '+' ∧ (cs.head? = some '0' → cs = ['0'])

instance (cs : List Char) : Decidable (Canonical cs) :=
  inferInstanceAs (Decidable (cs.head? ≠ some '+' ∧ (cs.head? = some '0' → cs = ['0'])))

theorem plus_not_isDigit : ¬ '+'.isDigit := by decide

theorem readOnto_eq_some_iff {cs : List Char} {acc n : Nat} :
    readOnto acc cs = some n ↔ (∀ c ∈ cs, c.isDigit) ∧ Nat.ofDigitChars 10 cs acc = n := by
  constructor
  · intro h
    have hdigits : ∀ c ∈ cs, c.isDigit := by
      induction cs generalizing acc with
      | nil => simp
      | cons c cs ih =>
        rw [readOnto] at h
        split at h
        · rename_i hc
          exact List.forall_mem_cons.2 ⟨hc, ih h⟩
        · cases h
    rw [readOnto_of_isDigit hdigits, Option.some.injEq] at h
    exact ⟨hdigits, h⟩
  · rintro ⟨hdigits, rfl⟩
    exact readOnto_of_isDigit hdigits acc

theorem natural?_eq_some_iff {cs : List Char} {n : Nat} :
    natural? cs = some n ↔ cs ≠ [] ∧ (∀ c ∈ cs, c.isDigit) ∧ Nat.ofDigitChars 10 cs 0 = n := by
  cases cs with
  | nil => simp [natural?]
  | cons c cs => simp [natural?, readOnto_eq_some_iff]

/-- A text is read as a number exactly if it spells the number. -/
theorem unsigned?_eq_some_iff {cs : List Char} {n : Nat} :
    unsigned? cs = some n ↔ Spells cs n := by
  rw [unsigned?.eq_def]
  split
  · rename_i cs
    rw [natural?_eq_some_iff]
    constructor
    · exact fun h => ⟨cs, .inr rfl, h⟩
    · rintro ⟨ds, rfl | h, hds⟩
      · exact absurd (hds.2.1 '+' List.mem_cons_self) plus_not_isDigit
      · rwa [(List.cons.inj h).2]
  · rename_i hplus
    rw [natural?_eq_some_iff]
    constructor
    · exact fun h => ⟨cs, .inl rfl, h⟩
    · rintro ⟨ds, rfl | rfl, hds⟩
      · exact hds
      · exact absurd rfl (hplus ds)

theorem uint32?_eq_some_iff {cs : List Char} {n : UInt32} :
    uint32? cs = some n ↔ Spells cs n.toNat := by
  simp only [uint32?, Option.bind_eq_some_iff, unsigned?_eq_some_iff]
  constructor
  · rintro ⟨m, hm, hn⟩
    split at hn
    · rename_i hlt
      obtain rfl := Option.some.inj hn
      rwa [UInt32.toNat_ofNat_of_lt' hlt]
    · cases hn
  · intro h
    exact ⟨n.toNat, h, by rw [if_pos n.toNat_lt, UInt32.ofNat_toNat]⟩

theorem Spells.slash_not_mem {cs : List Char} {n : Nat} (h : Spells cs n) : '/' ∉ cs := by
  obtain ⟨ds, rfl | rfl, -, hdigits, -⟩ := h
  · exact fun hmem => absurd (hdigits '/' hmem) (by decide)
  · intro hmem
    rcases List.mem_cons.1 hmem with h | h
    · cases h
    · exact absurd (hdigits '/' h) (by decide)

/-! ## The numeral of the writer -/

theorem digitChar_of_isDigit {c : Char} (h : c.isDigit) :
    c.toNat - '0'.toNat < 10 ∧ Nat.digitChar (c.toNat - '0'.toNat) = c := by
  have hrange : 48 ≤ c.toNat ∧ c.toNat ≤ 57 := by
    simpa [Char.isDigit, UInt32.le_iff_toNat_le] using h
  have hlt : c.toNat - '0'.toNat < 10 := by
    show c.toNat - 48 < 10
    omega
  refine ⟨hlt, Char.toNat_inj.1 ?_⟩
  rw [Nat.toNat_digitChar_of_lt_ten hlt]
  show 48 + (c.toNat - 48) = c.toNat
  omega

/-- Digits behind those of a number that is not zero are the digits of the number read onto it. -/
theorem toDigits_append {ds : List Char} (hdigits : ∀ c ∈ ds, c.isDigit) {acc : Nat}
    (hacc : 0 < acc) :
    Nat.toDigits 10 acc ++ ds = Nat.toDigits 10 (Nat.ofDigitChars 10 ds acc) := by
  induction ds generalizing acc with
  | nil => rw [List.append_nil, Nat.ofDigitChars_nil]
  | cons c ds ih =>
    obtain ⟨hc, hds⟩ := List.forall_mem_cons.1 hdigits
    obtain ⟨hlt, hchar⟩ := digitChar_of_isDigit hc
    have hlast := Nat.toDigits_append_toDigits (b := 10) (n := acc) (by decide) hacc hlt
    rw [Nat.toDigits_of_lt_base hlt, hchar] at hlast
    calc
      Nat.toDigits 10 acc ++ c :: ds = Nat.toDigits 10 acc ++ [c] ++ ds := by simp
      _ = Nat.toDigits 10 (10 * acc + (c.toNat - '0'.toNat)) ++ ds := by rw [hlast]
      _ = Nat.toDigits 10 (Nat.ofDigitChars 10 (c :: ds) acc) := by
        rw [ih hds (by omega), Nat.ofDigitChars_cons]

/-- A numeral without a sign and without needless zeros is the one that is written. -/
theorem Spells.eq_toDigits {cs : List Char} {n : Nat} (h : Spells cs n) (hcanon : Canonical cs) :
    cs = Nat.toDigits 10 n := by
  obtain ⟨hsign, hzero⟩ := hcanon
  obtain ⟨ds, rfl | rfl, hne, hdigits, rfl⟩ := h
  · obtain ⟨c, ds, rfl⟩ := List.exists_cons_of_ne_nil hne
    obtain ⟨hc, hds⟩ := List.forall_mem_cons.1 hdigits
    by_cases hc0 : c = '0'
    · rw [hzero (by rw [hc0]; rfl)]
      rfl
    · obtain ⟨hlt, hchar⟩ := digitChar_of_isDigit hc
      have hpos : 0 < c.toNat - '0'.toNat := by
        rw [Nat.pos_iff_ne_zero]
        intro h0
        rw [h0] at hchar
        exact hc0 hchar.symm
      rw [Nat.ofDigitChars_cons, Nat.mul_zero, Nat.zero_add, ← toDigits_append hds hpos,
        Nat.toDigits_of_lt_base hlt, hchar, List.singleton_append]
  · exact absurd rfl hsign

/-- Only zero is written with a zero in front. -/
theorem eq_zero_of_head?_toDigits {n : Nat} (h : (Nat.toDigits 10 n).head? = some '0') : n = 0 := by
  induction n using Nat.strongRecOn with
  | ind n ih =>
    by_cases hn : n < 10
    · rw [Nat.toDigits_of_lt_base hn, List.head?_cons, Option.some.injEq] at h
      have hall : ∀ m < 10, Nat.digitChar m = '0' → m = 0 := by decide
      exact hall n hn h
    · rw [Nat.toDigits_of_base_le (by decide) (by omega),
        List.head?_append_of_ne_nil _ Nat.toDigits_ne_nil] at h
      have := ih (n / 10) (by omega) h
      omega

theorem canonical_toDigits (n : Nat) : Canonical (Nat.toDigits 10 n) := by
  refine ⟨fun h => ?_, fun h => ?_⟩
  · have hplus := Nat.isDigit_of_mem_toDigits (by decide) (by decide) (List.mem_of_head? h)
    exact plus_not_isDigit hplus
  · rw [eq_zero_of_head?_toDigits h, Nat.toDigits_zero]

/-- Among the numerals of a number, the one that is written is the one without a sign and without
needless zeros. -/
theorem Spells.eq_ofNat_iff {s : String} {n : Nat} (h : Spells s.toList n) :
    s = ofNat n ↔ Canonical s.toList := by
  constructor
  · rintro rfl
    rw [toList_ofNat]
    exact canonical_toDigits n
  · intro hcanon
    rw [← String.toList_inj, toList_ofNat]
    exact h.eq_toDigits hcanon

end Numeral

namespace Qualifier

/-- A text has the form `source/number/name`: the source is not empty and has no slash, the number
is a numeral of `n`, which fits into 32 bits, and the name is anything. -/
structure Form (s source number name : String) (n : Nat) : Prop where
  text : s = source ++ "/" ++ number ++ "/" ++ name
  named : source ≠ ""
  plain : '/' ∉ source.toList
  numeral : Numeral.Spells number.toList n
  fits : n < 2 ^ 32

theorem ofChars?_toList_iff {s : String} {q : Qualifier} :
    ofChars? s.toList = some q ↔ ∃ number, Form s q.source number q.name q.id.toNat := by
  rw [ofChars?_eq_some_iff]
  constructor
  · rintro ⟨number, hs, hne, hplain, -, hid⟩
    refine ⟨String.ofList number, ?_, hne, hplain, ?_, q.id.toNat_lt⟩
    · rw [← String.toList_inj, hs]
      simp
    · rw [String.toList_ofList]
      exact Numeral.uint32?_eq_some_iff.1 hid
  · rintro ⟨number, rfl, hne, hplain, hnumeral, -⟩
    refine ⟨number.toList, by simp, hne, hplain, hnumeral.slash_not_mem, ?_⟩
    exact Numeral.uint32?_eq_some_iff.2 hnumeral

theorem parse_eq_error_iff {s : String} {e : Error} :
    parse s = .error e ↔ ofChars? s.toList = none ∧ e = .invalidQualifier s := by
  rw [parse]
  cases ofChars? s.toList <;> simp [eq_comm]

/-- Writing what was read from a text gives it back exactly if its number is the writer's. -/
theorem Form.render_eq_iff {s number : String} {q : Qualifier}
    (h : Form s q.source number q.name q.id.toNat) :
    q.render = s ↔ Numeral.Canonical number.toList := by
  rw [h.text, ← h.numeral.eq_ofNat_iff, render, ← String.toList_inj, ← String.toList_inj]
  simp only [String.toList_append, List.append_assoc, List.append_cancel_left_eq,
    List.append_cancel_right_eq]
  exact eq_comm

/-- A text is read as a qualifier exactly if it has the form `source/number/name`, and then as the
qualifier with these parts; from any other text comes the error that carries it. The text written
for what was read is read as the same qualifier, and it is the text that was read exactly if the
number in it has no sign and no needless zeros. -/
theorem parse_follows_form (s : String) :
    (∀ q, parse s = .ok q ↔ ∃ number, Form s q.source number q.name q.id.toNat) ∧
    (parse s = .error (.invalidQualifier s) ↔
      ∀ source number name n, ¬ Form s source number name n) ∧
    ∀ q number, Form s q.source number q.name q.id.toNat →
      parse q.render = .ok q ∧ (q.render = s ↔ Numeral.Canonical number.toList) := by
  refine ⟨fun q => parse_eq_ok_iff.trans ofChars?_toList_iff, ?_, fun q number h => ⟨?_, ?_⟩⟩
  · rw [parse_eq_error_iff, and_iff_left rfl, Option.eq_none_iff_forall_ne_some]
    constructor
    · intro hnone source number name n hform
      refine hnone ⟨source, UInt32.ofNat n, name⟩ (ofChars?_toList_iff.2 ⟨number, ?_⟩)
      show Form s source number name (UInt32.ofNat n).toNat
      rwa [UInt32.toNat_ofNat_of_lt' hform.fits]
    · intro hform q hq
      obtain ⟨number, hq⟩ := ofChars?_toList_iff.1 hq
      exact hform _ _ _ _ hq
  · rw [parse_eq_ok_iff, ofChars?_toList_iff]
    exact ⟨Numeral.ofNat q.id.toNat, rfl, h.named, h.plain,
      Numeral.unsigned?_eq_some_iff.1 (Numeral.unsigned?_ofNat _), q.id.toNat_lt⟩
  · exact h.render_eq_iff

/-- Signs and zeros in front of a number are read, and not written again. -/
example : (parse "hid/+007/a/b").toOption.map render = some "hid/7/a/b" := by
  decide +kernel

/-- A number may have any zeros in front, but its value has to fit, and there has to be a digit. -/
example : (parse "hid/000004294967295/").toOption = some ⟨"hid", 4294967295, ""⟩ ∧
    (parse "hid/4294967296/").toOption = none ∧ (parse "hid/+/").toOption = none := by
  decide +kernel

end Qualifier

end InputHub
