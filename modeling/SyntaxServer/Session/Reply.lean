import SyntaxServer.Session.Basic
import SyntaxServer.Session.Message

/-! # Replies

What a client gets for a request: a result or an error, under the id of the request.
-/
namespace SyntaxServer

/-- What the server can do, as it tells a client. -/
def capabilities : Json :=
  .object [
    ("textDocumentSync", .object [("openClose", .bool true), ("change", .int 2)]),
    ("hoverProvider", .bool true),
    ("foldingRangeProvider", .bool true)]

def serverInfo : Json :=
  .object [("name", .string Product.name), ("version", .string Product.version)]

/-- The result of a request. -/
inductive Answer where
  | initialized
  | shutdown
  | hover (found : Option Hover)
  | folds (ranges : List FoldRange)
deriving Repr

namespace Answer

def toJson : Answer → Json
  | initialized => .object [("capabilities", capabilities), ("serverInfo", serverInfo)]
  | shutdown => .null
  | hover none => .null
  | hover (some h) => h.toJson
  | folds ranges => .array (ranges.map FoldRange.toJson)

end Answer

namespace Error

/-- An error as JSON-RPC has it, with its name beside the number. -/
def toJson (e : Error) : Json :=
  .object [("code", .int e.code), ("message", .string e.message),
    ("data", .object [("kind", .string e.kind)])]

end Error

/-- What goes to a client in return: the outcome of its request, or that what it sent is no request. -/
inductive Reply where
  | outcome (id : Id) (result : Except Error Answer)
  | oversized
  | malformed
deriving Repr

namespace Reply

private def bare (code : Int) (message : String) : Json :=
  .object [("code", .int code), ("message", .string message)]

def toJson (r : Reply) : Json :=
  let (name, value, id) := match r with
    | outcome id (.ok answer) => ("result", answer.toJson, id)
    | outcome id (.error e) => ("error", e.toJson, id)
    | oversized => ("error", bare (-32600) "Invalid request", .null)
    | malformed => ("error", bare (-32700) "Parse error", .null)
  .object [("jsonrpc", .string "2.0"), (name, value), ("id", id.toJson)]

end Reply

end SyntaxServer
