import SyntaxServer.Text.Utf8

/-! # Paths

A path is bytes with slashes between its components.
-/
namespace SyntaxServer

/-- A name in a directory. -/
abbrev Name := Bytes

namespace Path

def slash : UInt8 := 0x2F

def dot : UInt8 := 0x2E

/-- The components of a path, empty ones included. -/
def split : Bytes → List Name
  | [] => [[]]
  | b :: s =>
    if b = slash then [] :: split s
    else
      match split s with
      | [] => [[b]]
      | name :: names => (b :: name) :: names

def isAbsolute (path : Bytes) : Bool := path.head? == some slash

/-- A path with one more name behind it. -/
def extend (path : Bytes) (name : Name) : Bytes :=
  if path.isEmpty || path.getLast? == some slash then path ++ name else path ++ slash :: name

/-- A path with several names behind it. -/
def join (path : Bytes) (names : List Name) : Bytes := names.foldl extend path

/-- A component that stays where it is. -/
def isIdle (name : Name) : Bool := name.isEmpty || name == [dot]

/-- A component that leads one level up. -/
def isParent (name : Name) : Bool := name == [dot, dot]

theorem split_ne_nil (s : Bytes) : split s ≠ [] := by
  cases s with
  | nil => simp [split]
  | cons b s =>
    simp only [split]
    split
    · simp
    · split <;> simp

end Path

end SyntaxServer
