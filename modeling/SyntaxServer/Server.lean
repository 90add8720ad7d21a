import SyntaxServer.Frame
import SyntaxServer.Json.Render
import SyntaxServer.Session.Step

/-! # Serving a connection

The messages on a byte stream are handled one after the other until the client leaves, the stream ends or
its framing is lost. A message that is too large, or that cannot be read, is answered with an error and
passed over. What goes out is framed in turn.
-/
namespace SyntaxServer

/-- What is sent to a client. -/
inductive Outgoing where
  | notice (n : Notice)
  | reply (r : Reply)
deriving Repr

namespace Outgoing

def toJson : Outgoing → Json
  | notice n => n.toJson
  | reply r => r.toJson

def frame (o : Outgoing) : Bytes := Frame.write o.toJson.renderBytes

end Outgoing

/-- What a step sends: its notices, and then its reply. -/
def Reaction.outgoing (r : Reaction) : List Outgoing :=
  r.notices.map .notice ++ r.reply.toList.map .reply

/-- What happens on a connection: a message goes out, or the walk through a workspace starts. -/
inductive Event where
  | sent (o : Outgoing)
  | walkStarted (w : Workspace)
deriving Repr

/-- The events of a step. A walk is started before anything is sent. -/
def Reaction.events (r : Reaction) : List Event :=
  r.walk.toList.map .walkStarted ++ r.outgoing.map .sent

/-- A connection as far as it has been served: the session, what has happened, and whether it is over. -/
structure Connection where
  session : Session := {}
  events : List Event := []
  ended : Bool := false
deriving Repr

namespace Connection

variable [Codec] (engine : Engine) (c : Connection)

def send (o : Outgoing) : Connection := { c with events := c.events ++ [.sent o] }

/-- Handles the body of one message. -/
def receive (body : Bytes) : Connection :=
  match Message.parse? body with
  | none => c.send (.reply .malformed)
  | some m =>
    let (session, reaction) := c.session.step engine m
    { session
      events := c.events ++ reaction.events
      ended := session.isExited }

/-- Handles what one read of the stream gives. -/
def accept (r : Frame.Read) : Connection :=
  if c.ended then c
  else
    match r with
    | .body body => c.receive engine body
    | .failed (.messageTooLarge _ _) => c.send (.reply .oversized)
    | _ => { c with ended := true }

end Connection

/-- The connection after all of a stream. -/
def serve [Codec] (engine : Engine) (input : Bytes) : Connection :=
  (Frame.readAll Frame.maxBody input).foldl (·.accept engine ·) {}

namespace Connection

variable (c : Connection)

/-- What the session has sent, in order. -/
def sent : List Outgoing :=
  c.events.filterMap fun
    | .sent o => some o
    | .walkStarted _ => none

/-- The workspaces whose walk has been started. -/
def walks : List Workspace :=
  c.events.filterMap fun
    | .sent _ => none
    | .walkStarted w => some w

def exitCode : Nat := c.session.exitStatus

/-- The lines with which the walks of a connection end. -/
def walkNotices (disk : Disk) : List Notice :=
  c.walks.map (·.walkNotice disk)

end Connection

end SyntaxServer
