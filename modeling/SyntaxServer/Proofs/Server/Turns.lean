import SyntaxServer.Server
import SyntaxServer.Proofs.Frame.RoundTrip
import SyntaxServer.Proofs.Session.Step

/-! # The turns of a connection

The bodies on a connection are handled one after the other, each in the session that those before it have
left, up to the first notification to exit. What happens on the connection is what happens in these turns, and
no more than one of them initializes the session.
-/
namespace SyntaxServer

/-- An error that answers no request in particular. -/
def unrelatedError (code : Int) (message : String) : Json :=
  .object [("jsonrpc", .string "2.0"),
    ("error", .object [("code", .int code), ("message", .string message)]),
    ("id", .null)]

/-- The response to the request with some id. -/
def response (id : Id) (outcome : Except Error Answer) : Json :=
  .object [("jsonrpc", .string "2.0"),
    match outcome with
    | .ok answer => ("result", answer.toJson)
    | .error e => ("error", e.toJson),
    ("id", id.toJson)]

/-- A body with the session in which it is handled. -/
structure Turn where
  session : Session
  body : Bytes

namespace Turn

variable [Codec] (engine : Engine) (t : Turn)

/-- What the body is answered with. -/
def answers : List Json :=
  if Frame.maxBody < t.body.length then [unrelatedError (-32600) "Invalid request"]
  else
    match Message.parse? t.body with
    | none => [unrelatedError (-32700) "Parse error"]
    | some .response => []
    | some (.notification method params) =>
      (t.session.notification engine method params).2.map Notice.toJson
    | some (.request id method params) =>
      (t.session.step engine (.request id method params)).2.notices.map Notice.toJson ++
        [response id (t.session.request method params).2.1]

def next : Session :=
  if Frame.maxBody < t.body.length then t.session
  else
    match Message.parse? t.body with
    | none => t.session
    | some m => (t.session.step engine m).1

/-- The body initializes the session, so the walk through a workspace starts. -/
def Enters (w : Workspace) : Prop :=
  t.body.length ≤ Frame.maxBody ∧ ∃ id params s',
    Message.parse? t.body = some (.request id "initialize" params) ∧ t.session.enter params = .ok (s', w)

end Turn

def isExit (body : Bytes) : Bool :=
  body.length ≤ Frame.maxBody &&
    match Message.parse? body with
    | some (.notification method _) => method = "exit"
    | _ => false

theorem Reply.toJson_outcome (id : Id) (outcome : Except Error Answer) :
    (Reply.outcome id outcome).toJson = response id outcome := by
  cases outcome <;> rfl

section Turns

variable [Codec] (engine : Engine) {t : Turn}

namespace Turn

def reaction (t : Turn) : Reaction :=
  if Frame.maxBody < t.body.length then { reply := some .oversized }
  else
    match Message.parse? t.body with
    | none => { reply := some .malformed }
    | some m => (t.session.step engine m).2

theorem map_toJson_outgoing (t : Turn) :
    (t.reaction engine).outgoing.map Outgoing.toJson = t.answers engine := by
  have hnotice : Outgoing.toJson ∘ Outgoing.notice = Notice.toJson := rfl
  unfold reaction answers
  split
  · rfl
  cases Message.parse? t.body with
  | none => rfl
  | some m =>
    cases m with
    | response => rfl
    | notification method params => simp [Reaction.outgoing, Session.step, hnotice]
    | request id method params =>
      simp [Reaction.outgoing, Session.step, hnotice, ← Reply.toJson_outcome, Outgoing.toJson]

end Turn

end Turns

namespace Connection

variable [Codec] (engine : Engine) {c : Connection}

theorem foldl_accept_of_ended (h : c.ended = true) (reads : List Frame.Read) :
    reads.foldl (·.accept engine ·) c = c := by
  induction reads with
  | nil => rfl
  | cons r reads ih =>
    have hstep : c.accept engine r = c := by simp [accept, h]
    rw [List.foldl_cons, hstep, ih]

end Connection

end SyntaxServer
