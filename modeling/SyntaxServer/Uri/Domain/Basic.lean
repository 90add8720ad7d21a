import SyntaxServer.Uri.Domain.Label

/-! # Domain names

A domain name may be given with characters of all scripts. Its normal form is in ASCII and lower case: the
characters are mapped, the text is brought into canonical form, and each label that needs it is written in
Punycode.
-/
namespace SyntaxServer.Uri

/-- The pieces of a text between the characters that satisfy `p`. -/
def splitOn (p : Char → Bool) : Text → List Text
  | [] => [[]]
  | c :: t =>
    if p c then [] :: splitOn p t
    else
      match splitOn p t with
      | [] => [[c]]
      | piece :: pieces => (c :: piece) :: pieces

/-- Characters that no host may hold. -/
def forbiddenHost : Text :=
  ['\x00', '\t', '\n', '\r', ' ', '#', '/', ':', '<', '>', '?', '@', '[', '\\', ']', '^', '|']

namespace Domain

/-- Whether a domain name may hold an ASCII character. -/
def isNameChar (c : Char) : Bool := ' ' ≤ c && c != '\x7f' && c != '%' && !forbiddenHost.contains c

/-- The characters of a domain name, mapped and in canonical form. -/
def mappedName? (t : Text) : Option Text := do
  let pieces ← t.mapM mapped?
  let name := Text.canonical pieces.flatten
  if name.all fun c => !isAscii c || isNameChar c then some name else none

/-- The normal form of a domain name. -/
def normal? (t : Text) : Option Text := do
  let name ← mappedName? t
  let labels := splitOn (· == '.') name
  let characters ← labels.mapM characters?
  let reversed := characters.any (·.any isReversed)
  if characters.all isWellFormed && (!reversed || characters.all isDirected) then
    some (['.'].intercalate (labels.map asciiLabel))
  else none

end Domain

end SyntaxServer.Uri
