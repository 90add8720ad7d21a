import SyntaxServer.Text.LineTable

/-! # Syntax trees

A tree as the engine gives it: every node has a kind, says whether it is named, an error, missing or
above such a node, and knows its place in bytes and points. The nodes in pre-order are the view that the
analyses of a tree are stated on.
-/
namespace SyntaxServer

structure Node where
  kind : String
  named : Bool
  error : Bool
  missing : Bool
  hasError : Bool
  startByte : Nat
  endByte : Nat
  start : Point
  stop : Point
deriving DecidableEq, Repr, Inhabited

/-- An error, or something missing, stands at the node itself. -/
def Node.isFault (n : Node) : Bool := n.error || n.missing

/-- The closed range of a node holds a point. -/
def Node.covers (n : Node) (p : Point) : Bool := p.within n.start n.stop

inductive Tree where
  | node (root : Node) (children : List Tree)
deriving Repr, Inhabited

namespace Tree

def root : Tree → Node
  | node n _ => n

def children : Tree → List Tree
  | node _ ts => ts

@[simp] theorem root_node (n : Node) (ts : List Tree) : (node n ts).root = n := rfl

@[simp] theorem children_node (n : Node) (ts : List Tree) : (node n ts).children = ts := rfl

mutual

/-- The nodes in pre-order. -/
def nodes : Tree → List Node
  | node n ts => n :: forestNodes ts

/-- The nodes of several trees, one tree after the other. -/
def forestNodes : List Tree → List Node
  | [] => []
  | t :: ts => nodes t ++ forestNodes ts

end

theorem nodes_eq (t : Tree) : t.nodes = t.root :: forestNodes t.children := by
  cases t
  rw [nodes, root_node, children_node]

/-- One node of a tree listed in pre-order, before the trees that follow it with their depths: the
deeper ones up to the next that is not deeper are its children. -/
def adopt (entry : Nat × Node) (later : List (Nat × Tree)) : List (Nat × Tree) :=
  let deeper : Nat × Tree → Bool := fun t => entry.1 < t.1
  (entry.1, node entry.2 ((later.takeWhile deeper).map (·.2))) :: later.dropWhile deeper

/-- The tree whose nodes and their depths are listed in pre-order. -/
def ofPreorder? (entries : List (Nat × Node)) : Option Tree :=
  ((entries.foldr adopt []).head?).map (·.2)

/-- A node with the kinds of the nodes around it, the innermost first. -/
structure Located where
  node : Node
  ancestors : List String
deriving DecidableEq, Repr

mutual

/-- The innermost node at a point that the tree covers. Of children that meet at the point the earlier
one is entered. -/
def locate (p : Point) (ancestors : List String) : Tree → Located
  | node n ts =>
    match locateIn p (n.kind :: ancestors) ts with
    | some found => found
    | none => ⟨n, ancestors⟩

def locateIn (p : Point) (ancestors : List String) : List Tree → Option Located
  | [] => none
  | t :: ts => if t.root.covers p then some (locate p ancestors t) else locateIn p ancestors ts

end

/-- The innermost node at a point. -/
def innermost? (t : Tree) (p : Point) : Option Located :=
  if t.root.covers p then some (t.locate p []) else none

mutual

/-- The outermost errors and missing nodes in pre-order; trees that are said to hold none are passed
over. -/
def faults : Tree → List Node
  | node n ts => if n.isFault then [n] else forestFaults ts

def forestFaults : List Tree → List Node
  | [] => []
  | t :: ts => if t.root.hasError then faults t ++ forestFaults ts else forestFaults ts

end

/-- The faults of a whole tree. -/
def allFaults (t : Tree) : List Node := if t.root.hasError then t.faults else []

end Tree

end SyntaxServer
