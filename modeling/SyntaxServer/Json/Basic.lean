import SyntaxServer.Text.Utf8

/-! # JSON values

Integers and numbers with a fraction or an exponent are kept apart, because a field that wants an
integer refuses the others. An object keeps its members in the order written, repeated names
included; looking a name up gives the last one.
-/
namespace SyntaxServer

inductive Json where
  | null
  | bool (b : Bool)
  | int (n : Int)
  | decimal (mantissa exponent : Int)
  | string (s : String)
  | array (items : List Json)
  | object (members : List (String × Json))
deriving Repr, Inhabited

namespace Json

/-- The last value that a list of members gives a name. -/
def lookupLast (name : String) : List (String × Json) → Option Json
  | [] => none
  | (key, value) :: ms =>
    match lookupLast name ms with
    | some v => some v
    | none => if key = name then some value else none

/-- How often a name is given. -/
def occurrences (name : String) (members : List (String × Json)) : Nat :=
  members.countP (·.1 == name)

def get? (name : String) : Json → Option Json
  | object members => lookupLast name members
  | _ => none

/-- An object without the members that have no value. -/
def objectOf (members : List (String × Option Json)) : Json :=
  object (members.filterMap fun (name, value) => value.map (name, ·))

mutual

/-- The value in which of several members of one name the last one is left. -/
def settled : Json → Json
  | array items => array (settledItems items)
  | object members => object (settledMembers members)
  | v => v

def settledItems : List Json → List Json
  | [] => []
  | v :: vs => settled v :: settledItems vs

def settledMembers : List (String × Json) → List (String × Json)
  | [] => []
  | (name, v) :: ms =>
    if occurrences name ms = 0 then (name, settled v) :: settledMembers ms else settledMembers ms

end

end Json

end SyntaxServer
