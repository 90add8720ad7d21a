import SyntaxServer.Text.Basic

/-! # Lines, rows and the two ways of naming a place

An editor names a place by line and UTF-16 column, and a line ends at a line feed, a carriage return
with a line feed, or a carriage return alone. A syntax tree names it by row and byte column, and a row
ends at a line feed only. A line table holds where the lines and rows of one text start and converts
between the two.
-/
namespace SyntaxServer

/-- A place as a syntax tree names it: row and byte column. -/
structure Point where
  row : Nat
  column : Nat
deriving DecidableEq, Repr, Inhabited

/-- A place as an editor names it: line and UTF-16 column. -/
structure Position where
  line : Nat
  character : Nat
deriving DecidableEq, Repr, Inhabited

/-- Two places of an editor, the first and the one just behind the last. -/
structure Span where
  start : Position
  stop : Position
deriving DecidableEq, Repr, Inhabited

/-- The low 32 bits of a number: places are sent to an editor as 32-bit words. -/
def low32 (n : Nat) : Nat := n % UInt32.size

namespace Point

/-- Row first, then column. -/
protected def le (p q : Point) : Bool :=
  p.row < q.row || (p.row == q.row && p.column ≤ q.column)

/-- The closed range of points from `start` to `stop`. -/
def within (p start stop : Point) : Bool := start.le p && p.le stop

/-- The point reached by writing `t` from a point on. -/
def advance (p : Point) (t : Text) : Point :=
  if '\n' ∈ t then
    ⟨p.row + t.count '\n', Text.bytes (t.reverse.takeWhile (· ≠ '\n'))⟩
  else
    ⟨p.row, p.column + Text.bytes t⟩

end Point

/-- Where the lines and the rows of a text start, and its size, all in bytes. -/
structure LineTable where
  lines : List Nat
  rows : List Nat
  size : Nat
deriving DecidableEq, Repr, Inhabited

namespace LineTable

/-- A line ends behind `c` when `rest` follows it. -/
def endsLine (c : Char) (rest : Text) : Bool :=
  c == '\n' || (c == '\r' && rest.head? != some '\n')

/-- A row ends behind `c`. -/
def endsRow (c : Char) (_ : Text) : Bool := c == '\n'

/-- The offsets just behind the characters that end a line, counted from `o`. -/
def startsAfter (ends : Char → Text → Bool) (o : Nat) : Text → List Nat
  | [] => []
  | c :: t =>
    if ends c t then (o + c.utf8Size) :: startsAfter ends (o + c.utf8Size) t
    else startsAfter ends (o + c.utf8Size) t

def ofText (t : Text) : LineTable where
  lines := 0 :: startsAfter endsLine 0 t
  rows := 0 :: startsAfter endsRow 0 t
  size := Text.bytes t

variable (table : LineTable)

def lineCount : Nat := table.lines.length

/-- The offsets between which the content of a line stands, its terminator left out. -/
def lineExtent? (t : Text) (line : Nat) : Option (Nat × Nat) :=
  (table.lines[line]?).map fun start =>
    match table.lines[line + 1]? with
    | none => (start, table.size)
    | some next =>
      if ['\r', '\n'] <:+ Text.takeBytes next t then (start, next - 2) else (start, next - 1)

/-- The index of the last start that is not behind `o`. -/
def lastStart (starts : List Nat) (o : Nat) : Nat := (starts.takeWhile (· ≤ o)).length - 1

/-- The offset of a position. A column behind the end of its line means the end of the line, and one
inside a character the end of that character. -/
def offset? (t : Text) (p : Position) : Option Nat :=
  (table.lineExtent? t p.line).map fun (start, stop) =>
    let line := Text.slice t start stop
    start + (Text.offsetOfUnits? line p.character).getD (Text.bytes line)

def point (o : Nat) : Point :=
  let row := lastStart table.rows o
  ⟨row, o - table.rows.getD row 0⟩

def pointAt? (t : Text) (p : Position) : Option Point := (table.offset? t p).map table.point

/-- The position of a point. A row that the text does not have is kept as it is, and so is a column
inside a character. -/
def position (t : Text) (p : Point) : Position :=
  match table.rows[p.row]? with
  | none => ⟨low32 p.row, low32 p.column⟩
  | some rowStart =>
    let o := min (rowStart + p.column) table.size
    let line := lastStart table.lines o
    let character :=
      if Text.IsBoundary t o then Text.units (Text.slice t (table.lines.getD line 0) o)
      else p.column
    ⟨low32 line, low32 character⟩

def span (t : Text) (start stop : Point) : Span := ⟨table.position t start, table.position t stop⟩

@[simp] theorem lineCount_ofText (t : Text) :
    (ofText t).lineCount = (startsAfter endsLine 0 t).length + 1 := rfl

@[simp] theorem size_ofText (t : Text) : (ofText t).size = Text.bytes t := rfl

end LineTable

end SyntaxServer
