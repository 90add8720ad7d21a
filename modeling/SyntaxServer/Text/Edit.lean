import SyntaxServer.Text.LineTable

/-! # Edits

An editor reports a change as a span of the current text and its replacement. For the engine the same
change is an edit in bytes and points: where it starts, where the old text ended and where the new
text ends.
-/
namespace SyntaxServer

structure Edit where
  startByte : Nat
  oldEndByte : Nat
  newEndByte : Nat
  startPoint : Point
  oldEndPoint : Point
  newEndPoint : Point
deriving DecidableEq, Repr

/-- Why a change or an edit does not fit a text. -/
inductive EditFault where
  | startPastLastLine (start : Position) (lastLine : Nat)
  | endPastLastLine (stop : Position) (lastLine : Nat)
  | endBeforeStart (span : Span)
  | oldRange (start stop size : Nat)
  | newRange (start stop size : Nat)
deriving DecidableEq, Repr

namespace EditFault

private def place (p : Position) : String := s!"{p.line}:{p.character}"

def message : EditFault → String
  | startPastLastLine p last => s!"start {place p} is past the last line {last}"
  | endPastLastLine p last => s!"end {place p} is past the last line {last}"
  | endBeforeStart s => s!"range end {place s.stop} precedes start {place s.start}"
  | oldRange start stop size => s!"old range {start}..{stop} does not fit a {size}-byte document"
  | newRange start stop size => s!"new range {start}..{stop} does not fit a {size}-byte document"

end EditFault

namespace Edit

/-- The edit that replaces a span of a text. A missing line is reported for the start first, and only
then is the order of the two ends looked at. -/
def ofSpan (t : Text) (span : Span) (replacement : Text) : Except EditFault Edit :=
  let table := LineTable.ofText t
  match table.offset? t span.start with
  | none => .error (.startPastLastLine span.start (table.lineCount - 1))
  | some start =>
    match table.offset? t span.stop with
    | none => .error (.endPastLastLine span.stop (table.lineCount - 1))
    | some stop =>
      if stop < start then .error (.endBeforeStart span)
      else .ok {
        startByte := start
        oldEndByte := stop
        newEndByte := start + Text.bytes replacement
        startPoint := table.point start
        oldEndPoint := table.point stop
        newEndPoint := (table.point start).advance replacement }

/-- The text after an edit that writes `replacement`. -/
def apply (e : Edit) (t replacement : Text) : Text :=
  Text.splice t e.startByte e.oldEndByte replacement

/-- An edit fits when its old range lies in the old text and its new range in the new one. -/
def checkFit (e : Edit) (old new : Text) : Except EditFault Unit :=
  if e.startByte > e.oldEndByte ∨ e.oldEndByte > Text.bytes old then
    .error (.oldRange e.startByte e.oldEndByte (Text.bytes old))
  else if e.startByte > e.newEndByte ∨ e.newEndByte > Text.bytes new then
    .error (.newRange e.startByte e.newEndByte (Text.bytes new))
  else .ok ()

end Edit

/-- A change an editor reports: of a span, or of the whole text when there is none. -/
structure Change where
  span : Option Span
  text : Text
deriving DecidableEq, Repr

end SyntaxServer
