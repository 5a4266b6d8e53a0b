import InputHub.Json.Escape
import InputHub.Json.Literal

/-!
# JSON tokens

A JSON text is a row of tokens with blanks between them. Numbers and strings keep their spelling, so
that writing a token gives back what was read.

- `Token.text` writes a token;
- `Token.read?` reads the tokens of a text, one character at a time.
-/

namespace InputHub.Json

/-- The smallest parts of a JSON text. -/
inductive Token where
  | openBrace
  | closeBrace
  | openBracket
  | closeBracket
  | colon
  | comma
  | null
  | bool (value : Bool)
  /-- A number as it is spelled. -/
  | number (literal : List Char)
  /-- A string as it is written between its quotes. -/
  | string (body : List Char)
  deriving DecidableEq

namespace Token

/-- How a token is written. -/
def text : Token → List Char
  | openBrace => ['\x7b']
  | closeBrace => ['\x7d']
  | openBracket => ['[']
  | closeBracket => [']']
  | colon => [':']
  | comma => [',']
  | null => ['n', 'u', 'l', 'l']
  | bool true => ['t', 'r', 'u', 'e']
  | bool false => ['f', 'a', 'l', 's', 'e']
  | number literal => literal
  | string body => '"' :: body ++ ['"']

/-- The token that is a single mark. -/
def mark? : Char → Option Token
  | '\x7b' => some openBrace
  | '\x7d' => some closeBrace
  | '[' => some openBracket
  | ']' => some closeBracket
  | ':' => some colon
  | ',' => some comma
  | _ => none

/-- Whether a character is a blank between tokens. -/
def isBlank (c : Char) : Bool := c = ' ' || c = '\n' || c = '\r' || c = '\t'

/-- Whether a character may stand in a number or a name. -/
def isWordChar (c : Char) : Bool := c.isAlphanum || c = '+' || c = '-' || c = '.'

/-- The token of a run of word characters: a name or a number. -/
def word? (cs : List Char) : Option Token :=
  if cs = null.text then some null
  else if cs = (bool true).text then some (bool true)
  else if cs = (bool false).text then some (bool false)
  else if (Literal.read? cs).isSome then some (number cs)
  else none

/-- Where the reader stands: between tokens, inside a word, inside a string, or behind a backslash
in a string. What was read of the token is kept with the last character first. -/
inductive Place where
  | between
  | word (sofar : List Char)
  | inside (sofar : List Char)
  | escaped (sofar : List Char)

/-- The reader: the tokens read, the last first, and where it stands. -/
structure Scan where
  done : List Token
  place : Place

/-- Reads a character that starts something new. -/
def Scan.start? (done : List Token) (c : Char) : Option Scan :=
  if isBlank c then some ⟨done, .between⟩
  else if c = '"' then some ⟨done, .inside []⟩
  else if isWordChar c then some ⟨done, .word [c]⟩
  else (mark? c).map fun t => ⟨t :: done, .between⟩

/-- Reads one more character. -/
def Scan.next? (s : Scan) (c : Char) : Option Scan :=
  match s.place with
  | .between => start? s.done c
  | .word sofar =>
    if isWordChar c then some ⟨s.done, .word (c :: sofar)⟩
    else (word? sofar.reverse).bind fun t => start? (t :: s.done) c
  | .inside sofar =>
    if c = '"' then
      if wellEscaped sofar.reverse then some ⟨string sofar.reverse :: s.done, .between⟩ else none
    else if c = '\\' then some ⟨s.done, .escaped sofar⟩
    else if c.toNat < 32 then none
    else some ⟨s.done, .inside (c :: sofar)⟩
  | .escaped sofar => some ⟨s.done, .inside (c :: '\\' :: sofar)⟩

/-- The tokens read when the text ends. -/
def Scan.finish? (s : Scan) : Option (List Token) :=
  match s.place with
  | .between => some s.done.reverse
  | .word sofar => (word? sofar.reverse).map fun t => (t :: s.done).reverse
  | .inside _ | .escaped _ => none

/-- The tokens of a text. -/
def read? (cs : List Char) : Option (List Token) :=
  (cs.foldlM Scan.next? ⟨[], .between⟩).bind Scan.finish?

end Token

end InputHub.Json
