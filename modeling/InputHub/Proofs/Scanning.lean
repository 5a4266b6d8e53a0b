import InputHub.Json.Token
import InputHub.Proofs.Escaping

/-!
# Tokens are read as they are spelled

The reader of tokens goes through a text one character at a time, and it only learns that a number
or a name has ended from the character behind it. `Token.Spells` is the grammar of texts that it is
held against: marks, escaped strings and words with any number of blanks around them, where no word
runs on into what follows it.

* `Scan.outcome_escape`: inside a string the reader passes over escaped text, and takes no quote in
  it for the end;
* `Scan.outcome_word`, `Scan.outcome_wordEnd`: a word is read to its end and becomes one token;
* `Token.read?_of_spells`: a text of the grammar is read as the tokens that it spells.
-/

namespace InputHub.Json.Token

/-- Whether a text does not go on with a character that would still belong to a word. -/
def Ended (cs : List Char) : Prop := ∀ c ∈ cs.head?, ¬ isWordChar c

/-- The texts that spell a row of tokens. -/
inductive Spells : List Token → List Char → Prop where
  | nil : Spells [] []
  | blank {ts : List Token} {cs : List Char} {c : Char} (hc : isBlank c) (h : Spells ts cs) :
      Spells ts (c :: cs)
  | mark {ts : List Token} {cs : List Char} {t : Token} {c : Char} (hc : mark? c = some t)
      (h : Spells ts cs) : Spells (t :: ts) (c :: cs)
  | string {ts : List Token} {cs : List Char} (body : List Char) (h : Spells ts cs) :
      Spells (string (escape body) :: ts) ((string (escape body)).text ++ cs)
  | word {ts : List Token} {cs : List Char} {t : Token} {w : List Char} (hw : word? w = some t)
      (hchars : ∀ c ∈ w, isWordChar c) (hcs : Ended cs) (h : Spells ts cs) :
      Spells (t :: ts) (w ++ cs)

/-- A mark is neither a blank nor a quote, and stands in no word. -/
theorem of_mark?_eq_some {c : Char} {t : Token} (h : mark? c = some t) :
    isBlank c = false ∧ c ≠ '"' ∧ isWordChar c = false := by
  unfold mark? at h
  split at h
  case h_7 => nomatch h
  all_goals decide

/-- A character of a word is neither a blank nor a quote. -/
theorem of_isWordChar {c : Char} (h : isWordChar c) : isBlank c = false ∧ c ≠ '"' := by
  refine ⟨Bool.eq_false_iff.mpr fun hblank => ?_, ?_⟩
  · simp only [isBlank, Bool.or_eq_true, decide_eq_true_eq] at hblank
    rcases hblank with ((rfl | rfl) | rfl) | rfl <;> exact absurd h (by decide)
  · rintro rfl
    exact absurd h (by decide)

theorem word?_nil : word? [] = none := by decide

/-- A number literal is no name, so as a word it is a number. -/
theorem word?_of_literal {w : List Char} (h : (Literal.read? w).isSome) :
    word? w = some (number w) := by
  have hnull : w ≠ null.text := by rintro rfl; exact absurd h (by decide)
  have htrue : w ≠ (bool true).text := by rintro rfl; exact absurd h (by decide)
  have hfalse : w ≠ (bool false).text := by rintro rfl; exact absurd h (by decide)
  rw [word?, if_neg hnull, if_neg htrue, if_neg hfalse, if_pos h]

/-! ## The reader from where it stands -/

namespace Scan

/-- What the reader makes of the rest of a text. -/
def outcome (s : Scan) (cs : List Char) : Option (List Token) :=
  (cs.foldlM next? s).bind finish?

variable {s s' : Scan} {done : List Token} {sofar cs : List Char} {c : Char}

theorem outcome_of_next? (h : s.next? c = some s') : s.outcome (c :: cs) = s'.outcome cs := by
  rw [outcome, List.foldlM_cons, h]
  rfl

/-- Between tokens a character is read as if nothing had come before it. -/
theorem outcome_of_start? (h : start? done c = some s') :
    outcome ⟨done, .between⟩ (c :: cs) = s'.outcome cs :=
  outcome_of_next? h

theorem outcome_plain (h : Plain c) :
    outcome ⟨done, .inside sofar⟩ (c :: cs) = outcome ⟨done, .inside (c :: sofar)⟩ cs := by
  apply outcome_of_next?
  simp only [next?]
  rw [if_neg h.ne_quote, if_neg h.ne_backslash, if_neg (Nat.not_lt.mpr h.no_control)]

/-- Behind a backslash any character is passed over, a quote as well. -/
theorem outcome_backslash {d : Char} :
    outcome ⟨done, .inside sofar⟩ ('\\' :: d :: cs) =
      outcome ⟨done, .inside (d :: '\\' :: sofar)⟩ cs := by
  have hslash : next? ⟨done, .inside sofar⟩ '\\' = some ⟨done, .escaped sofar⟩ := rfl
  have hnext : next? ⟨done, .escaped sofar⟩ d = some ⟨done, .inside (d :: '\\' :: sofar)⟩ := rfl
  rw [outcome_of_next? hslash, outcome_of_next? hnext]

theorem outcome_escapedAs {w : List Char} (h : EscapedAs c w) :
    outcome ⟨done, .inside sofar⟩ (w ++ cs) =
      outcome ⟨done, .inside (w.reverse ++ sofar)⟩ cs := by
  cases h with
  | plain h => exact outcome_plain h
  | short hd h => exact outcome_backslash
  | code ha hb h hc =>
    have hzero : Plain '0' := by decide
    show outcome _ ('\\' :: 'u' :: '0' :: '0' :: _ :: _ :: cs) = _
    rw [outcome_backslash, outcome_plain hzero, outcome_plain hzero, outcome_plain ha,
      outcome_plain hb]
    rfl

theorem outcome_escape (body : List Char) :
    outcome ⟨done, .inside sofar⟩ (escape body ++ cs) =
      outcome ⟨done, .inside ((escape body).reverse ++ sofar)⟩ cs := by
  induction body generalizing sofar with
  | nil => rfl
  | cons c body ih =>
    rw [escape_cons, List.append_assoc, outcome_escapedAs (escapedAs_escapeChar c), ih,
      List.reverse_append, List.append_assoc]

theorem outcome_word {w : List Char} (h : ∀ c ∈ w, isWordChar c) :
    outcome ⟨done, .word sofar⟩ (w ++ cs) = outcome ⟨done, .word (w.reverse ++ sofar)⟩ cs := by
  induction w generalizing sofar with
  | nil => rfl
  | cons c w ih =>
    have hc : next? ⟨done, .word sofar⟩ c = some ⟨done, .word (c :: sofar)⟩ :=
      if_pos (h c List.mem_cons_self)
    have hw : ∀ x ∈ w, isWordChar x := fun x hx => h x (List.mem_cons_of_mem c hx)
    rw [List.cons_append, outcome_of_next? hc, ih hw, List.reverse_cons, List.append_assoc]
    rfl

/-- The character behind a word is read as it is between tokens. -/
theorem outcome_wordEnd {t : Token} (hw : word? sofar.reverse = some t) (hcs : Ended cs) :
    outcome ⟨done, .word sofar⟩ cs = outcome ⟨t :: done, .between⟩ cs := by
  cases cs with
  | nil =>
    show (word? sofar.reverse).map _ = some _
    rw [hw]
    rfl
  | cons c cs =>
    have hc : ¬ isWordChar c := hcs c rfl
    have hnext : next? ⟨done, .word sofar⟩ c = next? ⟨t :: done, .between⟩ c := by
      simp only [next?]
      rw [if_neg hc, hw]
      rfl
    rw [outcome, List.foldlM_cons, hnext]
    rfl

end Scan

/-! ## Whole texts -/

theorem outcome_of_spells {ts : List Token} {cs : List Char} (h : Spells ts cs)
    (done : List Token) : Scan.outcome ⟨done, .between⟩ cs = some (done.reverse ++ ts) := by
  induction h generalizing done with
  | nil =>
    rw [List.append_nil]
    rfl
  | blank hc _ ih =>
    have hstart : Scan.start? done _ = some ⟨done, .between⟩ := if_pos hc
    rw [Scan.outcome_of_start? hstart, ih]
  | @mark ts cs t c hc _ ih =>
    obtain ⟨hblank, hquote, hword⟩ := of_mark?_eq_some hc
    have hstart : Scan.start? done c = some ⟨t :: done, .between⟩ := by
      simp [Scan.start?, hblank, hquote, hword, hc]
    rw [Scan.outcome_of_start? hstart, ih, List.reverse_cons, List.append_assoc]
    rfl
  | @string ts cs body _ ih =>
    have hopen : Scan.start? done '"' = some ⟨done, .inside []⟩ := rfl
    have hclose : Scan.next? ⟨done, .inside (escape body).reverse⟩ '"' =
        some ⟨string (escape body) :: done, .between⟩ := by
      simp [Scan.next?, wellEscaped_escape]
    have htext : (string (escape body)).text ++ cs = '"' :: (escape body ++ '"' :: cs) := by
      simp [text]
    rw [htext, Scan.outcome_of_start? hopen, Scan.outcome_escape, List.append_nil,
      Scan.outcome_of_next? hclose, ih, List.reverse_cons, List.append_assoc]
    rfl
  | @word ts cs t w hw hchars hcs _ ih =>
    cases w with
    | nil => rw [word?_nil] at hw; nomatch hw
    | cons c w =>
      have hc : isWordChar c := hchars c List.mem_cons_self
      obtain ⟨hblank, hquote⟩ := of_isWordChar hc
      have hstart : Scan.start? done c = some ⟨done, .word [c]⟩ := by
        simp [Scan.start?, hblank, hquote, hc]
      have hrest : ∀ x ∈ w, isWordChar x := fun x hx => hchars x (List.mem_cons_of_mem c hx)
      have hend : word? (w.reverse ++ [c]).reverse = some t := by simpa using hw
      rw [List.cons_append, Scan.outcome_of_start? hstart, Scan.outcome_word hrest,
        Scan.outcome_wordEnd hend hcs, ih, List.reverse_cons, List.append_assoc]
      rfl

theorem read?_of_spells {ts : List Token} {cs : List Char} (h : Spells ts cs) :
    read? cs = some ts :=
  outcome_of_spells h []

end InputHub.Json.Token
