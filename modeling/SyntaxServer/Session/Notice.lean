import SyntaxServer.Diagnostic
import SyntaxServer.Product
import SyntaxServer.Syntax.Fold
import SyntaxServer.Uri.Basic

/-! # Notices to the client

What the server tells a client of its own accord: lines for the client's log, and the diagnostics of a
document, which replace those sent before.
-/
namespace SyntaxServer

namespace Position

def toJson (p : Position) : Json :=
  .object [("line", .int p.line), ("character", .int p.character)]

end Position

namespace Span

def toJson (s : Span) : Json := .object [("start", s.start.toJson), ("end", s.stop.toJson)]

end Span

namespace RuleCode

def toJson : RuleCode → Json
  | number n => .int n
  | word s => .string s

end RuleCode

namespace Related

def toJson (r : Related) : Json :=
  .object [("location", .object [("uri", .string (toString r.uri)), ("range", r.span.toJson)]),
    ("message", .string r.message)]

end Related

namespace Diagnostic

def toJson (d : Diagnostic) : Json :=
  .objectOf [("range", some d.span.toJson),
    ("severity", d.severity.map (.int ·.code)),
    ("code", d.rule.map RuleCode.toJson),
    ("codeDescription", d.description.map fun uri => .object [("href", .string (toString uri))]),
    ("source", d.source.map .string),
    ("message", some (.string d.message)),
    ("relatedInformation", d.related.map fun rs => .array (rs.map Related.toJson)),
    ("tags", d.tags.map fun ts => .array (ts.map .int)),
    ("data", d.data)]

end Diagnostic

namespace FoldRange

def toJson (f : FoldRange) : Json :=
  .object [("startLine", .int f.startLine), ("endLine", .int f.endLine)]

end FoldRange

/-- The weight of a log line. Editors know the codes from one to four. -/
structure LogLevel where
  code : Int
deriving DecidableEq, Repr

namespace LogLevel

def error : LogLevel := ⟨1⟩

def warning : LogLevel := ⟨2⟩

def info : LogLevel := ⟨3⟩

def log : LogLevel := ⟨4⟩

end LogLevel

inductive Notice where
  | log (level : LogLevel) (text : String)
  | diagnostics (uri : Uri) (items : List Diagnostic) (version : Option Int)
deriving Repr

namespace Notice

def method : Notice → String
  | log _ _ => "window/logMessage"
  | diagnostics _ _ _ => "textDocument/publishDiagnostics"

/-- The params of a notice. A log line starts with the name of the server. -/
def params : Notice → Json
  | log level text =>
    .object [("type", .int level.code), ("message", .string (Product.name ++ ": " ++ text))]
  | diagnostics uri items version =>
    .objectOf [("uri", some (.string (toString uri))),
      ("diagnostics", some (.array (items.map Diagnostic.toJson))),
      ("version", version.map .int)]

def toJson (n : Notice) : Json :=
  .object [("jsonrpc", .string "2.0"), ("method", .string n.method), ("params", n.params)]

end Notice

/-- The notices on their way to a client, as long as it listens. -/
structure Outbox where
  listening : Bool := true
  sent : List Notice := []

namespace Outbox

def send (o : Outbox) (n : Notice) : Outbox :=
  if o.listening then { o with sent := o.sent ++ [n] } else o

def close (o : Outbox) : Outbox := { o with listening := false }

end Outbox

end SyntaxServer
