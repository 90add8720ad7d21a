import SyntaxServer.Session.Lifecycle
import SyntaxServer.Session.Workspace
import SyntaxServer.Store.Basic

/-! # Sessions

The state of one conversation with a client, and what the methods on documents do with it. A method that
fails changes nothing and sends nothing, so its result is either an error or the state and the notices after
it.
-/
namespace SyntaxServer

structure Session where
  lifecycle : Lifecycle := .uninitialized
  store : Store := {}
  workspace : Option Workspace := none
  exitCode : Option Nat := none
deriving Repr

/-- What a client is shown at a place: a text in Markdown, and the span it speaks of. -/
structure Hover where
  contents : String
  span : Span
deriving DecidableEq, Repr

namespace Hover

private def ticked (kind : String) : String := "`" ++ kind ++ "`"

/-- A node and the nodes around it, from the inside out. -/
def text (found : Tree.Located) : String :=
  let node := if found.node.named then "**" ++ found.node.kind ++ "**"
    else ticked found.node.kind ++ " token"
  if found.ancestors.isEmpty then node
  else node ++ "\n\nin " ++ " > ".intercalate (found.ancestors.map ticked)

def toJson (h : Hover) : Json :=
  .object [("contents", .object [("kind", .string "markdown"), ("value", .string h.contents)]),
    ("range", h.span.toJson)]

end Hover

namespace Session

variable (engine : Engine) (s : Session)

/-- The exit code of the process: failure unless it was left after a shutdown. -/
def exitStatus : Nat := s.exitCode.getD 1

/-- Diagnostics are sent unless the client has turned them off. -/
def publishes : Bool := s.workspace.all (·.settings.publishDiagnostics)

/-- The diagnostics of a document as they are sent after an update of it. -/
def publish (uri : Uri) : List Notice :=
  if s.publishes then
    match s.store.find? uri with
    | some d => [.diagnostics uri d.diagnostics (some d.version)]
    | none => []
  else []

/-- Opens a document. One whose language is unknown is ignored. -/
def didOpen (p : OpenParams) : Except Error (Session × List Notice) :=
  match Language.ofDocument? p.uri (some p.languageId) with
  | none => .ok (s, [.log .log s!"No grammar for {p.uri}, ignoring it"])
  | some language => do
    let store ← s.store.openDocument p.uri engine language p.text p.version
    let s := { s with store }
    return (s, .log .log s!"Document opened: {p.uri}" :: s.publish p.uri)

/-- Changes a document. -/
def didChange (p : ChangeParams) : Except Error (Session × List Notice) := do
  let store ← s.store.update p.uri engine p.changes p.version
  let s := { s with store }
  return (s, s.publish p.uri)

/-- Closes a document and takes its diagnostics back. One that is not open is ignored. -/
def didClose (p : CloseParams) : Except Error (Session × List Notice) :=
  match s.store.close p.uri with
  | (false, _) => .ok (s, [])
  | (true, store) =>
    let s := { s with store }
    .ok (s, (if s.publishes then [.diagnostics p.uri [] none] else []) ++
      [.log .log s!"Document closed: {p.uri}"])

/-- The innermost node at a position, if the position lies in the tree. -/
def hover (p : HoverParams) : Except Error (Option Hover) := do
  let d ← s.store.get p.uri
  return do
    let point ← d.pointAt? p.position
    let found ← d.innermost? point
    return ⟨Hover.text found, d.nodeSpan found.node⟩

def folds (p : FoldParams) : Except Error (List FoldRange) := do
  let d ← s.store.get p.uri
  return d.folds

end Session

end SyntaxServer
