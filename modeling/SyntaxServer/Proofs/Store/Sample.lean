import SyntaxServer.Json.Parse
import SyntaxServer.Syntax.Engine
import SyntaxServer.Text.Blank
import SyntaxServer.Uri.Basic

/-! # An engine for texts without tokens

In a text that holds nothing a grammar can read, all but the blanks around it is one error. Such an engine
gives a tree for every text and takes no hints; it stands for the real ones where a run is looked at.
-/
namespace SyntaxServer

namespace Engine

/-- A named node between two offsets of a text. -/
def spanNode (text : Text) (kind : String) (start stop : Nat) : Node where
  kind := kind
  named := true
  error := false
  missing := false
  hasError := false
  startByte := start
  endByte := stop
  start := (LineTable.ofText text).point start
  stop := (LineTable.ofText text).point stop

/-- The tree of a text without tokens. -/
def tokenlessTree (text : Text) : Tree :=
  let size := Text.bytes text
  let start := Text.bytes (text.takeWhile Json.isBlank)
  let stop := Text.bytes (Text.trimEnd Json.isBlank text)
  if start = size then .node (spanNode text "document" size size) []
  else
    let fault := { spanNode text "ERROR" start stop with error := true }
    .node { spanNode text "document" start size with hasError := true }
      [.node { fault with hasError := true } [.node fault []]]

def tokenless : Engine := ⟨fun _ text _ => some (tokenlessTree text)⟩

theorem tokenless_hintFree : tokenless.HintFree := fun _ _ _ => rfl

theorem tokenless_total : tokenless.Total := fun _ _ _ => rfl

end Engine

/-- A document that has not been saved. -/
def Uri.untitled (name : Text) : Uri := ⟨"untitled".toList, none, .opaqueText name, none, none⟩

end SyntaxServer
