import SyntaxServer.Syntax.Tree

/-! # Cursors

A cursor stands at a node of a tree and is moved from node to node. It knows the trees behind the one it stands at and
the cursors above it, so what is still ahead of it can be told: the nodes that come in pre-order.
-/
namespace SyntaxServer

/-- A cursor at the root of a tree, or at a tree inside, with the siblings behind it and the cursor at its parent. -/
inductive Cursor where
  | root (tree : Tree)
  | inside (tree : Tree) (later : List Tree) (parent : Cursor)

namespace Cursor

def tree : Cursor → Tree
  | root t => t
  | inside t _ _ => t

def node (c : Cursor) : Node := c.tree.root

def isRoot : Cursor → Bool
  | root _ => true
  | inside _ _ _ => false

def firstChild? (c : Cursor) : Option Cursor :=
  match c.tree.children with
  | [] => none
  | t :: ts => some (inside t ts c)

def nextSibling? : Cursor → Option Cursor
  | inside _ (t :: ts) parent => some (inside t ts parent)
  | _ => none

/-- Goes to the next sibling, or up until a parent has one. -/
def leave? : Cursor → Option Cursor
  | root t => (root t).nextSibling?
  | inside t later parent =>
    match (inside t later parent).nextSibling? with
    | some next => some next
    | none => parent.leave?

/-- Goes to the next node in pre-order. -/
def next? (c : Cursor) : Option Cursor :=
  match c.firstChild? with
  | some child => some child
  | none => c.leave?

/-- The nodes behind the tree that the cursor stands at. -/
def behind : Cursor → List Node
  | root _ => []
  | inside _ later parent => Tree.forestNodes later ++ parent.behind

/-- The nodes that are still to be visited, that of the cursor first. -/
def ahead (c : Cursor) : List Node := c.tree.nodes ++ c.behind

theorem behind_eq (c : Cursor) : c.behind = (c.leave?.map ahead).getD [] := by
  induction c with
  | root t => rfl
  | inside t later parent ih =>
    cases later with
    | nil => simpa [behind, leave?, nextSibling?, Tree.forestNodes] using ih
    | cons t' ts => simp [behind, leave?, nextSibling?, ahead, tree, Tree.forestNodes]

/-- Going from node to node visits them in pre-order. -/
theorem ahead_eq (c : Cursor) : c.ahead = c.node :: (c.next?.map ahead).getD [] := by
  rw [ahead, Tree.nodes_eq, List.cons_append, node, next?, firstChild?]
  cases hchildren : c.tree.children with
  | nil => simp [Tree.forestNodes, behind_eq c]
  | cons t ts => simp [ahead, tree, behind, Tree.forestNodes]

theorem ahead_length_lt {c next : Cursor} (h : c.next? = some next) : next.ahead.length < c.ahead.length := by
  rw [ahead_eq c, h]
  exact Nat.lt_succ_self _

theorem isRoot_of_leave? {c next : Cursor} (h : c.leave? = some next) : next.isRoot = false := by
  induction c with
  | root t => cases h
  | inside t later parent ih =>
    cases later with
    | nil => exact ih h
    | cons t' ts =>
      cases h
      rfl

theorem isRoot_of_next? {c next : Cursor} (h : c.next? = some next) : next.isRoot = false := by
  unfold next? at h
  split at h
  · next child hchild =>
    cases h
    unfold firstChild? at hchild
    split at hchild
    · cases hchild
    · cases hchild
      rfl
  · exact isRoot_of_leave? h

end Cursor

end SyntaxServer
