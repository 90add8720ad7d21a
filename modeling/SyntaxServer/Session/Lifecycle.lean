import SyntaxServer.Error

/-! # The lifecycle of a session

A session is initialized, shut down and left, in this order; only leaving is possible at any time.
-/
namespace SyntaxServer

inductive Lifecycle where
  | uninitialized
  | initialized
  | shuttingDown
  | exited
deriving DecidableEq, Repr, Inhabited

namespace Lifecycle

def name : Lifecycle → String
  | uninitialized => "Uninitialized"
  | initialized => "Initialized"
  | shuttingDown => "ShuttingDown"
  | exited => "Exited"

/-- Initializing is possible once. -/
def enter : Lifecycle → Except Error Lifecycle
  | uninitialized => .ok initialized
  | initialized => .error (.invalidRequest "server is already initialized")
  | shuttingDown => .error (.invalidRequest "server is shutting down")
  | exited => .error (.invalidRequest "server is shutting down")

def shutdown : Lifecycle → Except Error Lifecycle
  | initialized => .ok shuttingDown
  | uninitialized => .error .serverNotInitialized
  | shuttingDown => .error (.invalidRequest "shutdown was already requested")
  | exited => .error (.invalidRequest "shutdown was already requested")

def exit (_ : Lifecycle) : Lifecycle := exited

/-- Whether a request other than those that move the lifecycle is answered now. -/
def gate (l : Lifecycle) (method : String) : Except Error Unit :=
  match l with
  | initialized => .ok ()
  | uninitialized => .error .serverNotInitialized
  | shuttingDown => .error (.invalidRequest (method ++ " received after shutdown"))
  | exited => .error (.invalidRequest (method ++ " received after shutdown"))

def isActive (l : Lifecycle) : Bool := l = initialized

/-- The exit code of a process that is left in this state. -/
def exitCode : Lifecycle → Nat
  | shuttingDown => 0
  | _ => 1

end Lifecycle

end SyntaxServer
