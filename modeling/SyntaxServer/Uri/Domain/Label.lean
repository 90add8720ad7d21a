import SyntaxServer.Text.Canonical
import SyntaxServer.Text.Direction
import SyntaxServer.Text.Joining
import SyntaxServer.Text.Mark
import SyntaxServer.Uri.Domain.Mapping
import SyntaxServer.Uri.Punycode

/-! # Labels of domain names

A label is a piece of a domain name between dots. It is written in ASCII, in Punycode if it holds other
characters. What a label may hold goes beyond single characters: a mark cannot come first, a joiner needs letters
that it can join, and writing from right to left has to be unmistakable.
-/
namespace SyntaxServer.Uri.Domain

/-- The beginning of a label in Punycode. -/
def codedMark : Text := ['x', 'n', '-', '-']

/-- The greatest code that is read. -/
def maxCode : Nat := 2000

/-- The greatest label that is written in Punycode. -/
def maxCoded : Nat := 1000

/-- The label that a code stands for. It is in its only form, with no character that stands for others. -/
def decoded? (code : Text) : Option Text := do
  if code.all isAscii && code.getLast? != some '-' && code.length ≤ maxCode && !code.isEmpty then
    let label ← Punycode.decode? code
    if label.all isKept && Text.canonical label == label then some label else none
  else none

/-- The characters of a label, which may be written in Punycode. -/
def characters? (label : Text) : Option Text :=
  if codedMark.isPrefixOf label then decoded? (label.drop codedMark.length) else some label

/-- The label in ASCII. -/
def asciiLabel (label : Text) : Text :=
  if label.all isAscii then label else codedMark ++ Punycode.encode label

/-- The sign that kills the vowel of a consonant has a class of its own. -/
def isVirama (c : Char) : Bool := Text.markClass c == 9

/-- Whether the first letter in a text that is not transparent joins in one of the given ways. -/
def joins (ways : List Text.Joining) : Text → Bool
  | [] => false
  | c :: t =>
    ways.contains (Text.joining c) || (Text.joining c == .transparent && joins ways t)

/-- Whether the joiner `c` may stand between `before`, which is held last first, and `after`. -/
def joinerFits (before : Text) (c : Char) (after : Text) : Bool :=
  before.head?.any isVirama ||
    (c == '\u200c' && joins [.left, .dual] before && joins [.right, .dual] after)

def isJoiner (c : Char) : Bool := c == '\u200c' || c == '\u200d'

/-- Whether every joiner in a text has letters to join; `before` is what stands before it, last first. -/
def joinersFit (before : Text) : Text → Bool
  | [] => true
  | c :: t => (!isJoiner c || joinerFits before c t) && joinersFit (c :: before) t

/-- Whether the characters of a label may stand together. -/
def isWellFormed (label : Text) : Bool :=
  !label.head?.any Text.isMark && joinersFit [] label &&
    (label.all isAscii || label.length ≤ maxCoded)

/-- A character that is written from right to left. -/
def isReversed (c : Char) : Bool :=
  [Text.Direction.right, .arabic, .arabicNumber].contains (Text.direction c)

/-- The directions that may stand in a label from left to right. -/
def leftDirections : List Text.Direction :=
  [.left, .europeanNumber, .europeanSeparator, .europeanTerminator, .commonSeparator, .nonspacing,
    .boundary, .neutral]

/-- The directions that may stand in a label from right to left. -/
def rightDirections : List Text.Direction :=
  [.right, .arabic, .arabicNumber, .europeanNumber, .europeanSeparator, .europeanTerminator,
    .commonSeparator, .nonspacing, .boundary, .neutral]

/-- Whether a label reads in one way only in a domain name that is partly written from right to left: it has
one direction, given by its first character, it ends in a letter or number, and it does not mix two kinds of
numbers. -/
def isDirected (label : Text) : Bool :=
  let ds := label.map Text.direction
  let ending := (ds.reverse.dropWhile (· == .nonspacing)).head?
  match ds.head? with
  | none => true
  | some .left =>
    ds.all leftDirections.contains && ending.any [Text.Direction.left, .europeanNumber].contains
  | some first =>
    [Text.Direction.right, .arabic].contains first && ds.all rightDirections.contains &&
      ending.any [Text.Direction.right, .arabic, .europeanNumber, .arabicNumber].contains &&
      !(ds.contains .europeanNumber && ds.contains .arabicNumber)

end SyntaxServer.Uri.Domain
