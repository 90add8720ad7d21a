import SyntaxServer.Text.Blank
import SyntaxServer.Text.Hexadecimal

/-! # Tables of code points

What is known of single characters stands in tables, which are written as text: words with blanks
between them, and in a word code points in hexadecimal. A range is its first and last code point with a dash
between them, or one code point alone.
-/
namespace SyntaxServer

/-- The code points from a first to a last one. -/
structure CodeRange where
  first : Nat
  last : Nat
deriving DecidableEq, Repr

namespace CodeTable

/-- The words of a text. `word` holds the one begun and `words` those before it, both last first. -/
def wordsFrom (words : List Text) (word : Text) : Text → List Text
  | [] => (if word.isEmpty then words else word.reverse :: words).reverse
  | c :: t =>
    if Text.isBlank c then
      wordsFrom (if word.isEmpty then words else word.reverse :: words) [] t
    else wordsFrom words (c :: word) t

def words (s : String) : List Text := wordsFrom [] [] s.toList

/-- The parts of a word before and behind a mark; the second one is empty if the mark is missing. -/
def cut (mark : Char) (word : Text) : Text × Text :=
  (word.takeWhile (· ≠ mark), (word.dropWhile (· ≠ mark)).drop 1)

def range (word : Text) : CodeRange :=
  match cut '-' word with
  | (first, []) => ⟨Hexadecimal.value first, Hexadecimal.value first⟩
  | (first, last) => ⟨Hexadecimal.value first, Hexadecimal.value last⟩

/-- The ranges of a table, which ascend. -/
def ranges (s : String) : List CodeRange := (words s).map range

/-- Whether ascending ranges hold a code point. -/
def holds : List CodeRange → Nat → Bool
  | [], _ => false
  | r :: rs, n => if n < r.first then false else n ≤ r.last || holds rs n

/-- A table that gives each of its ranges a number: the range, a sign of equality, and the number. -/
def numbered (s : String) : List (CodeRange × Nat) :=
  (words s).map fun word =>
    let (source, number) := cut '=' word
    (range source, Hexadecimal.value number)

end CodeTable

end SyntaxServer
