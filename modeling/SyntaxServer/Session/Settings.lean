import SyntaxServer.Error
import SyntaxServer.Json.Codec
import SyntaxServer.Json.Decode

/-! # Settings

What a client may choose when it initializes the server.
-/
namespace SyntaxServer

structure Settings where
  excludeDirs : List String := [".git", "build", "vendor", "contrib"]
  publishDiagnostics : Bool := true
deriving DecidableEq, Repr

namespace Settings

def ofJson : Json.Decoder Settings := fun v => do
  let r ← Json.asRecordWithDefaults ["excludeDirs", "publishDiagnostics"] v
  let defaults : Settings := {}
  return {
    excludeDirs := ← r.withDefault "excludeDirs" (Json.asListOf Json.asString) defaults.excludeDirs
    publishDiagnostics :=
      ← r.withDefault "publishDiagnostics" Json.asBool defaults.publishDiagnostics }

/-- The settings of a client's options; none are given means the defaults. -/
def ofOptions [Codec] : Option Json → Except Error Settings
  | none => .ok {}
  | some .null => .ok {}
  | some v =>
    match ofJson v with
    | some settings => .ok settings
    | none =>
      .error (.invalidParams ("malformed initializationOptions: " ++ Codec.refusal "initializationOptions" v))

end Settings

end SyntaxServer
