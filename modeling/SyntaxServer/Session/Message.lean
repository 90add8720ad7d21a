import SyntaxServer.Json.Decode
import SyntaxServer.Json.Parse

/-! # JSON-RPC messages

What a client sends: a request, which carries an id, a notification, which carries none, or a response.
-/
namespace SyntaxServer

/-- The id by which a reply names its request. -/
inductive Id where
  | number (n : Int)
  | string (s : String)
  | null
deriving DecidableEq, Repr

namespace Id

def ofJson? : Json → Option Id
  | .string s => some (string s)
  | .null => some null
  | v => (Json.asInt64 v).map number

def toJson : Id → Json
  | number n => .int n
  | string s => .string s
  | null => .null

end Id

inductive Message where
  | request (id : Id) (method : String) (params : Json)
  | notification (method : String) (params : Json)
  | response
deriving Repr

namespace Message

open Json

/-- The method that a call names. One that names none calls the empty one. -/
def methodOf? : Option Json → Option String
  | none => some ""
  | some v => asString v

/-- A call from its four parts. The version has to be `"2.0"`, and absent params are null. -/
def callOfParts? (version method params id : Option Json) : Option Message := do
  let version ← version >>= asString
  let method ← methodOf? method
  let params := params.getD .null
  if version = "2.0" then
    match id with
    | none => some (notification method params)
    | some id => (Id.ofJson? id).map (request · method params)
  else none

/-- A request or notification: an object in which no part is repeated, or an array of the parts. -/
def call? : Json → Option Message
  | .object ms =>
    if ["jsonrpc", "method", "params", "id"].all (occurrences · ms ≤ 1) then
      callOfParts? (lookupLast "jsonrpc" ms) (lookupLast "method" ms) (lookupLast "params" ms)
        (lookupLast "id" ms)
    else none
  | .array items =>
    if items.length ≤ 4 then callOfParts? items[0]? items[1]? items[2]? items[3]? else none
  | _ => none

/-- The error of a response: a code, a message and perhaps data, and nothing else. -/
def isErrorObject : Json → Bool
  | .object ms =>
    ms.all (["code", "message", "data"].contains ·.1) &&
      occurrences "code" ms == 1 && occurrences "message" ms == 1 && occurrences "data" ms ≤ 1 &&
      ((lookupLast "code" ms).any (asInt64 · |>.isSome)) &&
      ((lookupLast "message" ms).any (asString · |>.isSome))
  | .array [code, message, _] => (asInt64 code).isSome && (asString message).isSome
  | _ => false

/-- A response: version and id, and either a result or an error. -/
def isResponse : Json → Bool
  | .object ms =>
    occurrences "jsonrpc" ms == 1 && occurrences "id" ms == 1 &&
      (lookupLast "jsonrpc" ms >>= asString) == some "2.0" &&
      ((lookupLast "id" ms).any (Id.ofJson? · |>.isSome)) &&
      (occurrences "result" ms == 1 ||
        (occurrences "error" ms == 1 && (lookupLast "error" ms).any isErrorObject))
  | _ => false

/-- The message a value holds; what can be read as a call is one. -/
def ofJson? (v : Json) : Option Message :=
  match call? v with
  | some m => some m
  | none => if isResponse v then some response else none

def parse? (body : Bytes) : Option Message := parseBytes? body >>= ofJson?

end Message

end SyntaxServer
