import InputHub.Json.Token

/-!
# JSON values

Values with their fields in the order in which they are written, repeated ones included.

- `Json.tokens` and `Json.ofTokens?` go from values to tokens and back;
- `Json.render` writes a value without blanks, `Json.pretty` with one field or item to a line;
- `Json.parse?` reads a value from a text.
-/

namespace InputHub

open Json (Token)

/-- A JSON value. Numbers, strings and field names keep their spelling. -/
inductive Json where
  | null
  | bool (value : Bool)
  | number (literal : List Char)
  | string (body : List Char)
  | array (items : List Json)
  | object (fields : List (List Char × Json))

namespace Json

/-! ## Writing -/

mutual

/-- The tokens of a value. -/
def tokens : Json → List Token
  | null => [.null]
  | bool b => [.bool b]
  | number literal => [.number literal]
  | string body => [.string body]
  | array items => .openBracket :: itemTokens items ++ [.closeBracket]
  | object fields => .openBrace :: fieldTokens fields ++ [.closeBrace]

/-- The tokens between the brackets of an array. -/
def itemTokens : List Json → List Token
  | [] => []
  | [v] => v.tokens
  | v :: vs => v.tokens ++ .comma :: itemTokens vs

/-- The tokens between the braces of an object. -/
def fieldTokens : List (List Char × Json) → List Token
  | [] => []
  | [(k, v)] => .string k :: .colon :: v.tokens
  | (k, v) :: fs => .string k :: .colon :: v.tokens ++ .comma :: fieldTokens fs

end

/-- The text of a value without blanks. -/
def render (v : Json) : String := String.ofList (v.tokens.flatMap Token.text)

/-- A line end and the blanks that start the next line. -/
def newline (depth : Nat) : List Char := '\n' :: List.replicate (2 * depth) ' '

mutual

/-- The text of a value on lines of its own, inside `depth` others. -/
def prettyChars (depth : Nat) : Json → List Char
  | array [] => ['[', ']']
  | array items => '[' :: prettyItems (depth + 1) items ++ newline depth ++ [']']
  | object [] => ['\x7b', '\x7d']
  | object fields => '\x7b' :: prettyFields (depth + 1) fields ++ newline depth ++ ['\x7d']
  | null => Token.null.text
  | bool b => (Token.bool b).text
  | number literal => literal
  | string body => (Token.string body).text

/-- Items on lines of their own. -/
def prettyItems (depth : Nat) : List Json → List Char
  | [] => []
  | [v] => newline depth ++ prettyChars depth v
  | v :: vs => newline depth ++ prettyChars depth v ++ ',' :: prettyItems depth vs

/-- Fields on lines of their own. -/
def prettyFields (depth : Nat) : List (List Char × Json) → List Char
  | [] => []
  | [(k, v)] => newline depth ++ (Token.string k).text ++ ':' :: ' ' :: prettyChars depth v
  | (k, v) :: fs =>
    newline depth ++ (Token.string k).text ++ ':' :: ' ' :: prettyChars depth v
      ++ ',' :: prettyFields depth fs

end

/-- The text of a value with one item or field to a line, two blanks for each level. -/
def pretty (v : Json) : String := String.ofList (v.prettyChars 0)

/-! ## Reading -/

/-- An array or object that was opened and not yet closed, with what it holds so far, the last
first; an object also has the name of the field being read. -/
inductive Open where
  | array (items : List Json)
  | object (fields : List (List Char × Json)) (name : List Char)

/-- What the reader of tokens waits for. -/
inductive Expect where
  /-- A value; or the end of an array that was just opened. -/
  | value (orEnd : Bool)
  /-- A field name; or the end of an object that was just opened. -/
  | name (fields : List (List Char × Json)) (orEnd : Bool)
  /-- The colon after a field name. -/
  | colon (fields : List (List Char × Json)) (name : List Char)
  /-- What may follow a value. -/
  | after (value : Json)

/-- The reader of tokens: what it waits for inside the arrays and objects that are open. -/
structure Reading where
  expect : Expect
  stack : List Open

/-- Reads one more token. -/
def Reading.next? (r : Reading) (t : Token) : Option Reading :=
  match r.expect, t, r.stack with
  | .value _, .null, st => some ⟨.after .null, st⟩
  | .value _, .bool b, st => some ⟨.after (.bool b), st⟩
  | .value _, .number l, st => some ⟨.after (.number l), st⟩
  | .value _, .string b, st => some ⟨.after (.string b), st⟩
  | .value _, .openBracket, st => some ⟨.value true, .array [] :: st⟩
  | .value _, .openBrace, st => some ⟨.name [] true, st⟩
  | .value true, .closeBracket, .array [] :: st => some ⟨.after (.array []), st⟩
  | .name fields _, .string k, st => some ⟨.colon fields k, st⟩
  | .name [] true, .closeBrace, st => some ⟨.after (.object []), st⟩
  | .colon fields k, .colon, st => some ⟨.value false, .object fields k :: st⟩
  | .after v, .comma, .array items :: st => some ⟨.value false, .array (v :: items) :: st⟩
  | .after v, .closeBracket, .array items :: st => some ⟨.after (.array (v :: items).reverse), st⟩
  | .after v, .comma, .object fields k :: st => some ⟨.name ((k, v) :: fields) false, st⟩
  | .after v, .closeBrace, .object fields k :: st =>
    some ⟨.after (.object ((k, v) :: fields).reverse), st⟩
  | _, _, _ => none

/-- The value read when the tokens end. -/
def Reading.finish? (r : Reading) : Option Json :=
  match r.expect, r.stack with
  | .after v, [] => some v
  | _, _ => none

/-- The value that tokens spell. -/
def ofTokens? (ts : List Token) : Option Json :=
  (ts.foldlM Reading.next? ⟨.value false, []⟩).bind Reading.finish?

/-- The value that a text spells. -/
def parse? (s : String) : Option Json :=
  (Token.read? s.toList).bind ofTokens?

end Json

end InputHub
