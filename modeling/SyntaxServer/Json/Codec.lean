import SyntaxServer.Json.Basic

/-! # The codec

Params are decoded by a library of the protocol, which settles two things by itself: which values describe the
capabilities of a client, and in what words it refuses a value. A server asks no more of it, so what is said
of one is said of it with any codec.
-/
namespace SyntaxServer

class Codec where
  /-- Whether a value describes the capabilities of a client. -/
  admits : Json → Bool
  /-- The words for a value that is not what it stands for. -/
  refusal (subject : String) (value : Json) : String

namespace Codec

/-- The sections of a client's capabilities. -/
def sectionNames : List String := ["workspace", "textDocument", "window", "general"]

/-- The codec that looks at the capabilities of a client no further than to see that every section given is an
object, and refuses everything in the same words. -/
@[reducible] def sections : Codec where
  admits
    | .object members => sectionNames.all fun name =>
      match Json.lookupLast name members with
      | none => true
      | some .null => true
      | some (.object _) => true
      | some _ => false
    | _ => false
  refusal _ _ := "unexpected value"

example : sections.admits (.object [("workspace", .int 5)]) = false := by decide

end Codec

end SyntaxServer
