import SyntaxServer.Json.Basic
import SyntaxServer.Text.LineTable
import SyntaxServer.Uri.Basic

/-! # Diagnostics

Markers that an editor shows at places of a document.
-/
namespace SyntaxServer

/-- How grave a diagnostic is. Editors know the codes from one to four. -/
structure Severity where
  code : Int
deriving DecidableEq, Repr

namespace Severity

def error : Severity := ⟨1⟩

end Severity

/-- The code by which a rule is known. -/
inductive RuleCode where
  | number (n : Int)
  | word (s : String)
deriving DecidableEq, Repr

/-- A place that has to do with a diagnostic, and what is to say there. -/
structure Related where
  uri : Uri
  span : Span
  message : String
deriving DecidableEq, Repr

/-- A marker. Besides its place and its message all is optional: the rule and where it is described, who
found it, related places, tags such as that for unused text, and data to be handed back. -/
structure Diagnostic where
  span : Span
  severity : Option Severity := none
  rule : Option RuleCode := none
  description : Option Uri := none
  source : Option String := none
  message : String
  related : Option (List Related) := none
  tags : Option (List Int) := none
  data : Option Json := none
deriving Repr

end SyntaxServer
