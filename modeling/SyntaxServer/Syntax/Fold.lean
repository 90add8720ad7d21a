import SyntaxServer.Syntax.Cursor

/-! # Fold ranges

An editor can fold away the rows of a named node behind its first one. On every row at most one fold
starts, that of the first node that is visited there, which is the outermost.
-/
namespace SyntaxServer

structure FoldRange where
  startLine : Nat
  endLine : Nat
deriving DecidableEq, Repr

/-- The last row a node reaches into: one that ends before the first column of a row does not count it. -/
def Node.lastRow (n : Node) : Nat :=
  if n.stop.column = 0 then n.stop.row - 1 else n.stop.row

/-- A named node of several rows can be folded. -/
def Node.foldable (n : Node) : Bool := n.named && n.start.row < n.lastRow

def Node.foldRange (n : Node) : FoldRange := ⟨low32 n.start.row, low32 n.lastRow⟩

/-- The folds found so far, and the rows on which they start. -/
structure Folds where
  ranges : List FoldRange := []
  starts : List Nat := []

namespace Folds

/-- Folds a node, unless a fold starts on its row already. -/
def visit (folds : Folds) (n : Node) : Folds :=
  if n.foldable && !folds.starts.contains n.start.row then
    { ranges := folds.ranges ++ [n.foldRange], starts := n.start.row :: folds.starts }
  else folds

/-- Visits the nodes from a cursor on; the root of a tree is not folded. -/
def walk (folds : Folds) (c : Cursor) : Folds :=
  let folds := if c.isRoot then folds else folds.visit c.node
  match h : c.next? with
  | some next =>
    have := Cursor.ahead_length_lt h
    walk folds next
  | none => folds
termination_by c.ahead.length

end Folds

def Tree.folds (t : Tree) : List FoldRange := (Folds.walk {} (.root t)).ranges

end SyntaxServer
