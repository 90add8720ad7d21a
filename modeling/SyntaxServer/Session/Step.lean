import SyntaxServer.Session.Reply

/-! # Steps of a session

One message at a time. A request gets one reply; a notification gets none, and when it fails the client is
told in its log. Outside the initialized state only the messages that move the lifecycle have an effect.
-/
namespace SyntaxServer

/-- What a step gives besides the next state: the notices sent, the reply, and the workspace whose walk
it starts. -/
structure Reaction where
  notices : List Notice := []
  reply : Option Reply := none
  walk : Option Workspace := none
deriving Repr

namespace Session

variable [Codec] (engine : Engine) (s : Session)

/-- Records the workspace, which is done once. -/
def recordWorkspace (w : Workspace) : Except Error Session :=
  match s.workspace with
  | none => .ok { s with workspace := some w }
  | some _ => .error (.internal "workspace was already recorded")

/-- Initializes the session; nothing is kept of an attempt that fails. -/
def enter (params : Json) : Except Error (Session × Workspace) := do
  let next ← s.lifecycle.enter
  let p ← decodeParams "initialize" InitializeParams.ofJson params
  let w ← Workspace.ofParams p
  let s ← s.recordWorkspace w
  return ({ s with lifecycle := next }, w)

/-- A request for something that is known of the documents. -/
def query (method : String) (params : Json) : Except Error Answer := do
  s.lifecycle.gate method
  match method with
  | "textDocument/hover" => return .hover (← s.hover (← decodeParams method HoverParams.ofJson params))
  | "textDocument/foldingRange" =>
    return .folds (← s.folds (← decodeParams method FoldParams.ofJson params))
  | _ => .error (.methodNotFound method)

/-- The state after a request, its outcome, and the workspace if it initialized the session. -/
def request (method : String) (params : Json) :
    Session × Except Error Answer × Option Workspace :=
  match method with
  | "initialize" =>
    match s.enter params with
    | .ok (s, w) => (s, .ok .initialized, some w)
    | .error e => (s, .error e, none)
  | "shutdown" =>
    match s.lifecycle.shutdown with
    | .ok next => ({ s with lifecycle := next }, .ok .shutdown, none)
    | .error e => (s, .error e, none)
  | _ => (s, s.query method params, none)

/-- What a notification about a document does; others are ignored. -/
def documentNotification (method : String) (params : Json) : Except Error (Session × List Notice) :=
  match method with
  | "textDocument/didOpen" => do s.didOpen engine (← decodeParams method OpenParams.ofJson params)
  | "textDocument/didChange" => do
    s.didChange engine (← decodeParams method ChangeParams.ofJson params)
  | "textDocument/didClose" => do s.didClose (← decodeParams method CloseParams.ofJson params)
  | _ => .ok (s, [])

/-- The session is left; the exit code tells whether it was shut down before. -/
def leave : Session :=
  { s with exitCode := some s.lifecycle.exitCode, lifecycle := s.lifecycle.exit }

/-- The state after a notification, and the notices it leads to. -/
def notification (method : String) (params : Json) : Session × List Notice :=
  if method = "exit" then (s.leave, [])
  else if s.lifecycle.isActive then
    match s.documentNotification engine method params with
    | .ok result => result
    | .error e => (s, [.log .error s!"{method} failed: {e.message}"])
  else (s, [])

/-- One message. -/
def step (m : Message) : Session × Reaction :=
  match m with
  | .request id method params =>
    let (s, outcome, walk) := s.request method params
    let notices := match walk with
      | some w => [Notice.log .info s!"initialized with workspace root {w.root}"]
      | none => []
    (s, { notices, reply := some (.outcome id outcome), walk })
  | .notification method params =>
    let (s, notices) := s.notification engine method params
    (s, { notices })
  | .response => (s, {})

/-- The state after several messages, and what each led to. -/
def run (s : Session) : List Message → Session × List Reaction
  | [] => (s, [])
  | m :: ms =>
    let (s, reaction) := s.step engine m
    let (s, reactions) := run s ms
    (s, reaction :: reactions)

def isExited : Bool := s.lifecycle = .exited

end Session

end SyntaxServer
