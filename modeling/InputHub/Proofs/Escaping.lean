import Mathlib.Tactic.SplitIfs
import InputHub.Json.Escape

/-!
# Escapes are undone

A character is written between the quotes of a string in one of three ways: as itself, behind a
backslash, or as a code of four digits. What the readers of a string need to know of the writer is
said once, by `EscapedAs`, and each of them is followed through the three ways:

* `escapedAs_escapeChar`: the writer uses no fourth way;
* `EscapedAs.unescape?_append`, `EscapedAs.wellEscaped_append`: one character is read as it was
  written, whatever follows it;
* `unescape?_escape`: so text is read back as it was written, with quotes, backslashes and control
  characters in it;
* `wellEscaped_escape`: every backslash of a written text starts an escape.
-/

namespace InputHub.Json

/-- A character that a string holds as it is. -/
structure Plain (c : Char) : Prop where
  ne_quote : c ≠ '"'
  ne_backslash : c ≠ '\\'
  no_control : 32 ≤ c.toNat

instance (c : Char) : Decidable (Plain c) :=
  decidable_of_iff (c ≠ '"' ∧ c ≠ '\\' ∧ 32 ≤ c.toNat)
    ⟨fun ⟨hq, hb, hc⟩ => ⟨hq, hb, hc⟩, fun h => ⟨h.ne_quote, h.ne_backslash, h.no_control⟩⟩

/-- The ways in which a character is written between the quotes of a string. -/
inductive EscapedAs (c : Char) : List Char → Prop where
  | plain (h : Plain c) : EscapedAs c [c]
  | short {d : Char} (hd : d ≠ 'u') (h : shortEscape? d = some c) : EscapedAs c ['\\', d]
  | code {a b : Char} (ha : Plain a) (hb : Plain b) (h : code? '0' '0' a b = some c.toNat)
      (hc : c.toNat < 32) : EscapedAs c ['\\', 'u', '0', '0', a, b]

/-! ## Writing -/

theorem hexValue?_hexDigit {n : Nat} (h : n < 16) : hexValue? (hexDigit n) = some n := by
  have hall : ∀ m < 16, hexValue? (hexDigit m) = some m := by decide
  exact hall n h

theorem plain_hexDigit {n : Nat} (h : n < 16) : Plain (hexDigit n) := by
  have hall : ∀ m < 16, Plain (hexDigit m) := by decide
  exact hall n h

/-- A code below 256 is the value of its last two digits. -/
theorem code?_hexDigit {n : Nat} (h : n < 256) :
    code? '0' '0' (hexDigit (n / 16)) (hexDigit (n % 16)) = some n := by
  have hzero : hexValue? '0' = some 0 := by decide
  have hhigh : hexValue? (hexDigit (n / 16)) = some (n / 16) := hexValue?_hexDigit (by omega)
  have hlow : hexValue? (hexDigit (n % 16)) = some (n % 16) := hexValue?_hexDigit (by omega)
  have hsum : ((0 * 16 + 0) * 16 + n / 16) * 16 + n % 16 = n := by omega
  simp only [code?, hzero, hhigh, hlow, Option.bind_eq_bind, Option.bind_some, hsum]
  rfl

theorem escapedAs_escapeChar (c : Char) : EscapedAs c (escapeChar c) := by
  rw [escapeChar]
  split_ifs with hquote hback hb hf hn hr ht hcontrol
  · exact .short (by decide) (by subst hquote; rfl)
  · exact .short (by decide) (by subst hback; rfl)
  · exact .short (by decide) (by subst hb; rfl)
  · exact .short (by decide) (by subst hf; rfl)
  · exact .short (by decide) (by subst hn; rfl)
  · exact .short (by decide) (by subst hr; rfl)
  · exact .short (by decide) (by subst ht; rfl)
  · exact .code (plain_hexDigit (by omega)) (plain_hexDigit (by omega))
      (code?_hexDigit (by omega)) hcontrol
  · exact .plain ⟨hquote, hback, Nat.not_lt.mp hcontrol⟩

theorem escape_cons (c : Char) (cs : List Char) : escape (c :: cs) = escapeChar c ++ escape cs :=
  List.flatMap_cons

/-! ## Reading -/

namespace EscapedAs

variable {c : Char} {w : List Char}

theorem unescape?_append (h : EscapedAs c w) (rest : List Char) :
    unescape? (w ++ rest) = (unescape? rest).map (c :: ·) := by
  cases h with
  | plain h =>
    show unescape? (c :: rest) = _
    rw [unescape?]
    all_goals simp [h.ne_backslash]
  | short hd h =>
    show unescape? ('\\' :: _ :: rest) = _
    rw [unescape?, h]
    · rfl
    all_goals simp [hd]
  | code ha hb h hc =>
    show unescape? ('\\' :: 'u' :: '0' :: '0' :: _ :: _ :: rest) = _
    rw [unescape?, h]
    simp only [Option.bind_eq_bind, Option.bind_some, Char.ofNat_toNat]
    rw [if_neg (by omega), if_neg (by omega)]

theorem wellEscaped_append (h : EscapedAs c w) (rest : List Char) :
    wellEscaped (w ++ rest) = wellEscaped rest := by
  cases h with
  | plain h =>
    show wellEscaped (c :: rest) = _
    rw [wellEscaped]
    all_goals simp [h.ne_backslash]
  | short hd h =>
    show wellEscaped ('\\' :: _ :: rest) = _
    rw [wellEscaped, h]
    · rfl
    all_goals simp [hd]
  | code ha hb h hc =>
    show wellEscaped ('\\' :: 'u' :: '0' :: '0' :: _ :: _ :: rest) = _
    rw [wellEscaped, h]
    rfl

end EscapedAs

theorem unescape?_escape (cs : List Char) : unescape? (escape cs) = some cs := by
  induction cs with
  | nil => rfl
  | cons c cs ih =>
    rw [escape_cons, (escapedAs_escapeChar c).unescape?_append, ih, Option.map_some]

theorem wellEscaped_escape (cs : List Char) : wellEscaped (escape cs) := by
  induction cs with
  | nil => rfl
  | cons c cs ih => rw [escape_cons, (escapedAs_escapeChar c).wellEscaped_append, ih]

end InputHub.Json
