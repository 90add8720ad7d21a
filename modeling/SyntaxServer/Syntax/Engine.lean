import SyntaxServer.Language
import SyntaxServer.Syntax.Tree
import SyntaxServer.Text.Edit

/-! # The parsing engine

The engine turns a text of a language into a tree. It may be given a hint: an earlier tree of the document
and the edits made since, in their order, from which it can take over what has not changed.
-/
namespace SyntaxServer

structure Hint where
  tree : Tree
  edits : List Edit
deriving Repr

namespace Hint

def ofTree (tree : Tree) : Hint := ⟨tree, []⟩

/-- The hint after one more edit. -/
def record (h : Hint) (e : Edit) : Hint := ⟨h.tree, h.edits ++ [e]⟩

end Hint

structure Engine where
  parse? : Language → Text → Option Hint → Option Tree

namespace Engine

/-- The engine that has no grammar at all. -/
def none : Engine := ⟨fun _ _ _ => Option.none⟩

/-- The engine gives the same tree with or without a hint. -/
def HintFree (engine : Engine) : Prop :=
  ∀ language text hint, engine.parse? language text hint = engine.parse? language text Option.none

/-- The engine gives a tree for every text. -/
def Total (engine : Engine) : Prop :=
  ∀ language text hint, (engine.parse? language text hint).isSome

end Engine

end SyntaxServer
