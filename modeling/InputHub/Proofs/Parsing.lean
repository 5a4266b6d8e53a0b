import InputHub.Json.Value
import InputHub.Proofs.Scanning

/-!
# Values are read as they are written

Writing a value and reading it go through its tokens. Both directions are told with what comes next:
the tokens or characters behind a value are handed on as they are, so that arrays and objects are
followed item by item, however deep they are nested.

* `outcome_tokens`: the tokens of a value are read as that value, inside whatever is open;
* `Written`: the values whose numbers are literals and whose strings and names are escaped text;
* `Written.spelled`: the text of such a value spells its tokens;
* `Written.parse?_render`: so it is read back from its text.
-/

namespace InputHub.Json

open Token (Spells Ended)

/-! ## The tokens of arrays and objects -/

theorem tokens_array_append (items : List Json) (ts : List Token) :
    (array items).tokens ++ ts = .openBracket :: (itemTokens items ++ .closeBracket :: ts) := by
  simp [tokens]

theorem tokens_object_append (fields : List (List Char × Json)) (ts : List Token) :
    (object fields).tokens ++ ts = .openBrace :: (fieldTokens fields ++ .closeBrace :: ts) := by
  simp [tokens]

theorem itemTokens_cons_append (v w : Json) (vs : List Json) (ts : List Token) :
    itemTokens (v :: w :: vs) ++ ts = v.tokens ++ .comma :: (itemTokens (w :: vs) ++ ts) := by
  simp [itemTokens]

theorem fieldTokens_single_append (k : List Char) (v : Json) (ts : List Token) :
    fieldTokens [(k, v)] ++ ts = .string k :: .colon :: (v.tokens ++ ts) := by
  simp [fieldTokens]

theorem fieldTokens_cons_append (k : List Char) (v : Json) (f : List Char × Json)
    (fs : List (List Char × Json)) (ts : List Token) :
    fieldTokens ((k, v) :: f :: fs) ++ ts =
      .string k :: .colon :: (v.tokens ++ .comma :: (fieldTokens (f :: fs) ++ ts)) := by
  simp [fieldTokens]

/-! ## From tokens to values -/

namespace Reading

/-- What the reader makes of the rest of the tokens. -/
def outcome (r : Reading) (ts : List Token) : Option Json := (ts.foldlM next? r).bind finish?

theorem outcome_of_next? {r r' : Reading} {t : Token} {ts : List Token}
    (h : r.next? t = some r') : r.outcome (t :: ts) = r'.outcome ts := by
  rw [outcome, List.foldlM_cons, h]
  rfl

/-- A field name and its colon are read on the way to the value. -/
theorem outcome_name (acc : List (List Char × Json)) (b : Bool) (st : List Open) (k : List Char)
    (ts : List Token) :
    outcome ⟨.name acc b, st⟩ (.string k :: .colon :: ts) =
      outcome ⟨.value false, .object acc k :: st⟩ ts := by
  have hname : next? ⟨.name acc b, st⟩ (.string k) = some ⟨.colon acc k, st⟩ := rfl
  rw [outcome_of_next? hname]
  rfl

end Reading

mutual

theorem outcome_tokens (v : Json) (b : Bool) (st : List Open) (ts : List Token) :
    Reading.outcome ⟨.value b, st⟩ (v.tokens ++ ts) = Reading.outcome ⟨.after v, st⟩ ts := by
  match v with
  | null => rfl
  | bool value => rfl
  | number literal => rfl
  | string body => rfl
  | array [] => rfl
  | array (v :: vs) =>
    rw [tokens_array_append]
    exact outcome_items (v :: vs) [] true st ts (List.cons_ne_nil v vs)
  | object [] => rfl
  | object (f :: fs) =>
    rw [tokens_object_append]
    exact outcome_fields (f :: fs) [] true st ts (List.cons_ne_nil f fs)

theorem outcome_items (vs acc : List Json) (b : Bool) (st : List Open) (ts : List Token)
    (hne : vs ≠ []) :
    Reading.outcome ⟨.value b, .array acc :: st⟩ (itemTokens vs ++ .closeBracket :: ts) =
      Reading.outcome ⟨.after (.array (acc.reverse ++ vs)), st⟩ ts := by
  match vs with
  | [] => exact absurd rfl hne
  | [v] =>
    rw [itemTokens, outcome_tokens v, ← List.reverse_cons]
    rfl
  | v :: w :: vs =>
    have hcomma : Reading.next? ⟨.after v, .array acc :: st⟩ .comma =
        some ⟨.value false, .array (v :: acc) :: st⟩ := rfl
    rw [itemTokens_cons_append, outcome_tokens v, Reading.outcome_of_next? hcomma,
      outcome_items (w :: vs) (v :: acc) false st ts (List.cons_ne_nil w vs), List.reverse_cons,
      List.append_assoc]
    rfl

theorem outcome_fields (fs acc : List (List Char × Json)) (b : Bool) (st : List Open)
    (ts : List Token) (hne : fs ≠ []) :
    Reading.outcome ⟨.name acc b, st⟩ (fieldTokens fs ++ .closeBrace :: ts) =
      Reading.outcome ⟨.after (.object (acc.reverse ++ fs)), st⟩ ts := by
  match fs with
  | [] => exact absurd rfl hne
  | [(k, v)] =>
    rw [fieldTokens_single_append, Reading.outcome_name, outcome_tokens v, ← List.reverse_cons]
    rfl
  | (k, v) :: f :: fs =>
    have hcomma : Reading.next? ⟨.after v, .object acc k :: st⟩ .comma =
        some ⟨.name ((k, v) :: acc) false, st⟩ := rfl
    rw [fieldTokens_cons_append, Reading.outcome_name, outcome_tokens v,
      Reading.outcome_of_next? hcomma,
      outcome_fields (f :: fs) ((k, v) :: acc) false st ts (List.cons_ne_nil f fs),
      List.reverse_cons, List.append_assoc]
    rfl

end

theorem ofTokens?_tokens (v : Json) : ofTokens? v.tokens = some v := by
  have h := outcome_tokens v false [] []
  rw [List.append_nil] at h
  exact h

/-! ## From values to texts -/

/-- A value as writers make it: its numbers are literals, and its strings and names are escaped
text. -/
inductive Written : Json → Prop where
  | null : Written null
  | bool (b : Bool) : Written (bool b)
  | number {literal : List Char} (hread : (Literal.read? literal).isSome)
      (hchars : ∀ c ∈ literal, Token.isWordChar c) : Written (number literal)
  | string (cs : List Char) : Written (string (escape cs))
  | array {items : List Json} (h : ∀ v ∈ items, Written v) : Written (array items)
  | object {fields : List (List Char × Json)} (hnames : ∀ f ∈ fields, ∃ cs, f.1 = escape cs)
      (h : ∀ f ∈ fields, Written f.2) : Written (object fields)

/-- The text of a row of tokens. -/
def spell (ts : List Token) : List Char := ts.flatMap Token.text

@[simp] theorem spell_nil : spell [] = [] := rfl

@[simp] theorem spell_cons (t : Token) (ts : List Token) : spell (t :: ts) = t.text ++ spell ts :=
  List.flatMap_cons

@[simp] theorem spell_append (ts us : List Token) : spell (ts ++ us) = spell ts ++ spell us :=
  List.flatMap_append

/-- A value whose text spells its tokens, whatever is spelled behind it. -/
def Spelled (v : Json) : Prop :=
  ∀ {ts : List Token} {cs : List Char}, Spells ts cs → Ended cs →
    Spells (v.tokens ++ ts) (spell v.tokens ++ cs)

theorem ended_mark {c : Char} {t : Token} (h : Token.mark? c = some t) (cs : List Char) :
    Ended (c :: cs) := by
  intro d hd
  obtain rfl : c = d := Option.some.inj hd
  simp [(Token.of_mark?_eq_some h).2.2]

theorem spells_items {items : List Json} (h : ∀ v ∈ items, Spelled v) {ts : List Token}
    {cs : List Char} (hs : Spells ts cs) (hend : Ended cs) :
    Spells (itemTokens items ++ ts) (spell (itemTokens items) ++ cs) := by
  match items with
  | [] => exact hs
  | [v] =>
    rw [itemTokens]
    exact h v List.mem_cons_self hs hend
  | v :: w :: vs =>
    have hcomma : Token.mark? ',' = some .comma := rfl
    have hrest : Spells (itemTokens (w :: vs) ++ ts) (spell (itemTokens (w :: vs)) ++ cs) :=
      spells_items (fun x hx => h x (List.mem_cons_of_mem v hx)) hs hend
    have hv := h v List.mem_cons_self (.mark hcomma hrest) (ended_mark hcomma _)
    rw [itemTokens_cons_append]
    simpa [itemTokens, Token.text] using hv

theorem spells_field {k : List Char} {v : Json} (hk : ∃ cs, k = escape cs) (hv : Spelled v)
    {ts : List Token} {cs : List Char} (hs : Spells ts cs) (hend : Ended cs) :
    Spells (.string k :: .colon :: (v.tokens ++ ts))
      ((Token.string k).text ++ ':' :: (spell v.tokens ++ cs)) := by
  obtain ⟨name, rfl⟩ := hk
  have hcolon : Token.mark? ':' = some .colon := rfl
  exact .string name (.mark hcolon (hv hs hend))

theorem spells_fields {fields : List (List Char × Json)}
    (hnames : ∀ f ∈ fields, ∃ cs, f.1 = escape cs) (h : ∀ f ∈ fields, Spelled f.2)
    {ts : List Token} {cs : List Char} (hs : Spells ts cs) (hend : Ended cs) :
    Spells (fieldTokens fields ++ ts) (spell (fieldTokens fields) ++ cs) := by
  match fields with
  | [] => exact hs
  | [(k, v)] =>
    have hfield := spells_field (hnames _ List.mem_cons_self) (h _ List.mem_cons_self) hs hend
    rw [fieldTokens_single_append]
    simpa [fieldTokens, Token.text] using hfield
  | (k, v) :: f :: fs =>
    have hcomma : Token.mark? ',' = some .comma := rfl
    have hrest : Spells (fieldTokens (f :: fs) ++ ts) (spell (fieldTokens (f :: fs)) ++ cs) :=
      spells_fields (fun x hx => hnames x (List.mem_cons_of_mem _ hx))
        (fun x hx => h x (List.mem_cons_of_mem _ hx)) hs hend
    have hfield := spells_field (hnames _ List.mem_cons_self) (h _ List.mem_cons_self)
      (.mark hcomma hrest) (ended_mark hcomma _)
    rw [fieldTokens_cons_append]
    simpa [fieldTokens, Token.text] using hfield

theorem Written.spelled {v : Json} (h : Written v) : Spelled v := by
  intro ts cs hs hend
  induction h generalizing ts cs with
  | null =>
    have hword : Token.word? Token.null.text = some .null := by decide
    have hchars : Token.null.text.all Token.isWordChar := by decide
    simpa [tokens] using Spells.word hword (List.all_eq_true.mp hchars) hend hs
  | bool b =>
    have hword : Token.word? (Token.bool b).text = some (.bool b) := by cases b <;> decide
    have hchars : (Token.bool b).text.all Token.isWordChar := by cases b <;> decide
    simpa [tokens] using Spells.word hword (List.all_eq_true.mp hchars) hend hs
  | number hread hchars =>
    simpa [tokens, Token.text] using Spells.word (Token.word?_of_literal hread) hchars hend hs
  | string body =>
    simpa [tokens] using Spells.string body hs
  | array _ ih =>
    have hopen : Token.mark? '[' = some .openBracket := rfl
    have hclose : Token.mark? ']' = some .closeBracket := rfl
    have hitems := spells_items ih (.mark hclose hs) (ended_mark hclose cs)
    rw [tokens_array_append]
    simpa [tokens, Token.text] using Spells.mark hopen hitems
  | object hnames _ ih =>
    have hopen : Token.mark? '\x7b' = some .openBrace := rfl
    have hclose : Token.mark? '\x7d' = some .closeBrace := rfl
    have hfields := spells_fields hnames ih (.mark hclose hs) (ended_mark hclose cs)
    rw [tokens_object_append]
    simpa [tokens, Token.text] using Spells.mark hopen hfields

theorem Written.parse?_render {v : Json} (h : Written v) : parse? v.render = some v := by
  have hspells : Spells v.tokens (spell v.tokens) := by
    simpa using h.spelled .nil (fun _ hc => nomatch hc)
  rw [parse?, render, String.toList_ofList]
  show (Token.read? (spell v.tokens)).bind ofTokens? = some v
  rw [Token.read?_of_spells hspells, Option.bind_some, ofTokens?_tokens]

end InputHub.Json
