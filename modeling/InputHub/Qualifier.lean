import InputHub.Error
import InputHub.Text.Numeral

/-!
# Device qualifiers

A qualifier names one physical device among all that a hub knows. It is written `source/id/name`;
the name may hold slashes, the source of a readable qualifier may not.

- `Qualifier.render` writes a qualifier;
- `Qualifier.parse` reads one and hands back the whole text when it cannot.
-/

namespace InputHub

/-- The name of one device: who reported it, its number among devices of the same source and name,
and the name it reports. -/
structure Qualifier where
  source : String
  id : UInt32
  name : String
  deriving DecidableEq

namespace Qualifier

/-- Writes a qualifier as `source/id/name`. -/
def render (q : Qualifier) : String :=
  q.source ++ "/" ++ Numeral.ofNat q.id.toNat ++ "/" ++ q.name

/-- What stands before and after the first slash. -/
def cut : List Char → Option (List Char × List Char)
  | [] => none
  | c :: cs =>
    if c = '/' then some ([], cs)
    else (cut cs).map fun parts => (c :: parts.1, parts.2)

/-- Reads a qualifier: a source that is not empty, a number below `2 ^ 32` and a name, with the
first two slashes between them. -/
def ofChars? (cs : List Char) : Option Qualifier := do
  let (source, rest) ← cut cs
  let (number, name) ← cut rest
  if source.isEmpty then none
  else
    let id ← Numeral.uint32? number
    some ⟨String.ofList source, id, String.ofList name⟩

/-- Reads a qualifier from its text; the error carries the text as it was given. -/
def parse (s : String) : Except Error Qualifier :=
  match ofChars? s.toList with
  | some q => .ok q
  | none => .error (.invalidQualifier s)

/-- Qualifiers are ordered by source, then by number, then by name. -/
instance : Ord Qualifier where
  compare a b :=
    (compare a.source b.source).then ((compare a.id b.id).then (compare a.name b.name))

end Qualifier

end InputHub
