import SyntaxServer.Text.Decimal

/-! # URIs

A URI in normal form. Two spellings of one URI have the same normal form, so equality of these values is
equality of URIs. The parts are kept as they are written, escapes included.
-/
namespace SyntaxServer

/-- The place on a network: who asks, at which host, through which port other than the usual one. -/
structure Authority where
  userInfo : Text := []
  host : Text
  port : Option Nat := none
deriving DecidableEq, Repr

/-- A path is a list of segments, each with a slash before it, or a text with no structure. -/
inductive UriPath where
  | opaqueText (text : Text)
  | segments (names : List Text)
deriving DecidableEq, Repr

structure Uri where
  scheme : Text
  authority : Option Authority
  path : UriPath
  query : Option Text := none
  fragment : Option Text := none
deriving DecidableEq, Repr

namespace Authority

def render (a : Authority) : Text :=
  (if a.userInfo.isEmpty then [] else a.userInfo ++ ['@']) ++ a.host ++
    (match a.port with
      | none => []
      | some n => ':' :: Decimal.render n)

end Authority

namespace UriPath

def render : UriPath → Text
  | opaqueText t => t
  | segments names => names.flatMap ('/' :: ·)

end UriPath

namespace Uri

/-- The URI as text. A path that starts with an empty segment would read as a network place, so
without one a dot segment is put before it. -/
def render (u : Uri) : Text :=
  let place := match u.authority, u.path with
    | some a, _ => ['/', '/'] ++ a.render
    | none, .segments ([] :: _ :: _) => ['/', '.']
    | none, _ => []
  let query := match u.query with
    | none => []
    | some q => '?' :: q
  let fragment := match u.fragment with
    | none => []
    | some f => '#' :: f
  u.scheme ++ ':' :: place ++ u.path.render ++ query ++ fragment

instance : ToString Uri := ⟨fun u => String.ofList u.render⟩

/-- The segments of the path, if it has any. -/
def segments? (u : Uri) : Option (List Text) :=
  match u.path with
  | .segments (name :: names) => some (name :: names)
  | _ => none

/-- The host, if one is named. -/
def host? (u : Uri) : Option Text :=
  match u.authority with
  | some a => if a.host.isEmpty then none else some a.host
  | none => none

end Uri

end SyntaxServer
