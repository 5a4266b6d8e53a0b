/-!
# Texts cut to a number of bytes

A buffer of fixed size keeps the first bytes of a text. A character that does not fit as a whole
leaves a mark of replacement, since a part of its bytes stands for no character.
-/

namespace InputHub.Text

/-- The character shown for bytes that stand for none. -/
def replacement : Char := '�'

/-- What can be read of the first `bytes` bytes of a text. -/
def cutChars : (bytes : Nat) → List Char → List Char
  | _, [] => []
  | bytes, c :: cs =>
    if c.utf8Size ≤ bytes then c :: cutChars (bytes - c.utf8Size) cs
    else if bytes = 0 then []
    else [replacement]

/-- What can be read of a text of which only the first `bytes` bytes are kept. -/
def cut (bytes : Nat) (s : String) : String := String.ofList (cutChars bytes s.toList)

end InputHub.Text
