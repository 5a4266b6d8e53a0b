import Mathlib.Tactic.SplitIfs
import InputHub.Snapshot

/-!
# Texts in the order of their bytes

Texts are compared character by character. Written in UTF-8, a character is a byte that tells how
many follow it, and then six bits of its code in each of those. So the bytes of two texts are in the
same order as their characters, whatever these are:

* `Ascends` says of a way to write numbers that a smaller one comes first, whatever follows it, and
  `Ascends.tail` that this stays so when the last six bits get a byte of their own;
* `utf8EncodeChar_lt`: characters are written in such a way;
* `utf8_lt`: so the bytes of texts are in the order of the texts.
-/

namespace InputHub.Text

/-- A way to write the numbers below a limit in which the smaller of two numbers comes first,
whatever is written behind them. -/
def Ascends (write : Nat → List UInt8) (limit : Nat) : Prop :=
  ∀ ⦃v w : Nat⦄, v < w → w < limit → ∀ xs ys, write v ++ xs < write w ++ ys

theorem byte_lt {v w : Nat} (hvw : v < w) (hw : w < 256) (xs ys : List UInt8) :
    UInt8.ofNat v :: xs < UInt8.ofNat w :: ys := by
  refine List.cons_lt_cons_iff.2 (.inl ?_)
  rwa [UInt8.lt_iff_toNat_lt, UInt8.toNat_ofNat_of_lt' (Nat.lt_trans hvw hw),
    UInt8.toNat_ofNat_of_lt' hw]

/-- One byte for each number, from some byte on. -/
theorem ascends_lead (start count : Nat) (h : start + count ≤ 256) :
    Ascends (fun v => [UInt8.ofNat (v % count + start)]) count := by
  intro v w hvw hw xs ys
  simp only [Nat.mod_eq_of_lt hw, Nat.mod_eq_of_lt (Nat.lt_trans hvw hw)]
  exact byte_lt (by omega) (by omega) xs ys

/-- The last six bits of a number may be written in a byte behind the rest. -/
theorem Ascends.tail {write : Nat → List UInt8} {limit : Nat} (h : Ascends write limit) :
    Ascends (fun v => write (v / 64) ++ [UInt8.ofNat (v % 64 + 128)]) (64 * limit) := by
  intro v w hvw hw xs ys
  simp only [List.append_assoc, List.singleton_append]
  have hle : v / 64 ≤ w / 64 := Nat.div_le_div_right (Nat.le_of_lt hvw)
  rcases Nat.lt_or_eq_of_le hle with hlt | heq
  · exact h hlt (Nat.div_lt_of_lt_mul hw) _ _
  · rw [heq]
    exact List.append_left_lt (byte_lt (by omega) (by omega) xs ys)

/-! ## Characters -/

theorem ascends_two :
    Ascends (fun v => [UInt8.ofNat (v / 64 % 32 + 192), UInt8.ofNat (v % 64 + 128)]) 2048 :=
  (ascends_lead 192 32 (by decide)).tail

theorem ascends_three :
    Ascends (fun v => [UInt8.ofNat (v / 4096 % 16 + 224), UInt8.ofNat (v / 64 % 64 + 128),
      UInt8.ofNat (v % 64 + 128)]) 65536 := by
  have h := (ascends_lead 224 16 (by decide)).tail.tail
  simp only [Nat.div_div_eq_div_mul] at h
  exact h

theorem ascends_four :
    Ascends (fun v => [UInt8.ofNat (v / 262144 % 8 + 240), UInt8.ofNat (v / 4096 % 64 + 128),
      UInt8.ofNat (v / 64 % 64 + 128), UInt8.ofNat (v % 64 + 128)]) 2097152 := by
  have h := (ascends_lead 240 8 (by decide)).tail.tail.tail
  simp only [Nat.div_div_eq_div_mul] at h
  exact h

/-- Of two characters the smaller one comes first when they are written, whatever follows. -/
theorem utf8EncodeChar_lt {c d : Char} (h : c < d) (xs ys : List UInt8) :
    String.utf8EncodeChar c ++ xs < String.utf8EncodeChar d ++ ys := by
  have hlt : c.val.toNat < d.val.toNat := h
  have hd : d.val.toNat < 0x110000 := by
    rcases d.valid with hd | hd <;> omega
  simp only [String.utf8EncodeChar]
  -- Characters with as many bytes are in order as numbers; otherwise the first byte decides.
  split_ifs
  · exact byte_lt hlt (by omega) xs ys
  iterate 3 exact byte_lt (by omega) (by omega) _ _
  · omega
  · exact ascends_two hlt (by omega) xs ys
  iterate 2 exact byte_lt (by omega) (by omega) _ _
  iterate 2 omega
  · exact ascends_three hlt (by omega) xs ys
  · exact byte_lt (by omega) (by omega) _ _
  iterate 3 omega
  · exact ascends_four hlt (by omega) xs ys

/-! ## Texts -/

theorem utf8EncodeChar_ne_nil (c : Char) : String.utf8EncodeChar c ≠ [] := by
  rw [← List.length_pos_iff, String.length_utf8EncodeChar]
  exact c.utf8Size_pos

theorem flatMap_utf8EncodeChar_lt {cs ds : List Char} (h : cs < ds) :
    cs.flatMap String.utf8EncodeChar < ds.flatMap String.utf8EncodeChar := by
  induction cs generalizing ds with
  | nil =>
    cases ds with
    | nil => exact absurd h (List.not_lt_nil _)
    | cons d ds =>
      obtain ⟨b, bs, hb⟩ := List.exists_cons_of_ne_nil (utf8EncodeChar_ne_nil d)
      rw [List.flatMap_nil, List.flatMap_cons, hb]
      exact List.nil_lt_cons _ _
  | cons c cs ih =>
    cases ds with
    | nil => exact absurd h (List.not_lt_nil _)
    | cons d ds =>
      rw [List.flatMap_cons, List.flatMap_cons]
      rcases List.cons_lt_cons_iff.1 h with hcd | ⟨rfl, hrest⟩
      · exact utf8EncodeChar_lt hcd _ _
      · exact List.append_left_lt (ih hrest)

/-- The bytes of a text in UTF-8. -/
def utf8 (s : String) : List UInt8 := s.toUTF8.data.toList

theorem utf8_eq_flatMap (s : String) : utf8 s = s.toList.flatMap String.utf8EncodeChar := by
  conv => lhs; rw [← String.ofList_toList (s := s)]
  rw [utf8, String.toUTF8_eq_toByteArray, String.toByteArray_ofList, List.utf8Encode,
    List.toList_data_toByteArray]

/-- The bytes of two texts are in the order of the texts. -/
theorem utf8_lt {s t : String} (h : s < t) : utf8 s < utf8 t := by
  rw [utf8_eq_flatMap, utf8_eq_flatMap]
  exact flatMap_utf8EncodeChar_lt h

end InputHub.Text
