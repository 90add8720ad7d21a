import SyntaxServer.Json.Basic
import SyntaxServer.Uri.Parse

/-! # Values out of JSON

A field wants a value of one form and refuses all others. A record is given as an object, or as an array of
its fields in their order.
-/
namespace SyntaxServer.Json

/-- What reads a value of some form; it refuses what is not of this form. -/
abbrev Decoder (α : Type) := Json → Option α

variable {α : Type}

def asString : Decoder String
  | string s => some s
  | _ => none

def asText : Decoder Text := fun v => (asString v).map String.toList

def asBool : Decoder Bool
  | bool b => some b
  | _ => none

/-- An integer between two bounds. -/
def asIntIn (low high : Int) : Decoder Int
  | int n => if low ≤ n ∧ n ≤ high then some n else none
  | _ => none

def asInt32 : Decoder Int := asIntIn (-2147483648) 2147483647

def asInt64 : Decoder Int := asIntIn (-9223372036854775808) 9223372036854775807

def asNat32 : Decoder Nat := fun v => (asIntIn 0 4294967295 v).map Int.toNat

def asAny : Decoder Json := some

def asListOf (item : Decoder α) : Decoder (List α)
  | array vs => vs.mapM item
  | _ => none

def asUri : Decoder Uri := fun v => asString v >>= Uri.ofString?

/-- One of several words, alone or as the name of an object's only member, which is null. -/
def asOneOf (words : List String) : Decoder String := fun v => do
  let word ← match v.settled with
    | string s => some s
    | object [(name, null)] => some name
    | _ => none
  if words.contains word then some word else none

/-- A whole number or a string, as progress tokens are. -/
def asToken : Decoder Json
  | string s => some (string s)
  | v => (asInt32 v).map int

/-- The fields of a record by name. -/
structure Record where
  field? : String → Option Json

namespace Record

def ofMembers (members : List (String × Json)) : Record := ⟨fun name => lookupLast name members⟩

def ofItems (names : List String) (items : List Json) : Record :=
  ⟨fun name => (names.zip items).lookup name⟩

variable (r : Record) (name : String)

def required (decode : Decoder α) : Option α := r.field? name >>= decode

/-- A field that may be absent or null. -/
def optional (decode : Decoder α) : Option (Option α) :=
  match r.field? name with
  | none => some none
  | some null => some none
  | some v => (decode v).map some

/-- A field that may be absent. -/
def withDefault (decode : Decoder α) (default : α) : Option α :=
  match r.field? name with
  | none => some default
  | some v => decode v

end Record

/-- A record with the given fields. -/
def asRecord (names : List String) : Decoder Record
  | object ms => some (.ofMembers ms)
  | array items => if items.length = names.length then some (.ofItems names items) else none
  | _ => none

/-- A record whose fields all have defaults, so that an array may leave the last ones out. -/
def asRecordWithDefaults (names : List String) : Decoder Record
  | object ms => some (.ofMembers ms)
  | array items => if items.length ≤ names.length then some (.ofItems names items) else none
  | _ => none

/-- A record that is given as an object only. -/
def asObjectRecord : Decoder Record
  | object ms => some (.ofMembers ms)
  | _ => none

end SyntaxServer.Json
