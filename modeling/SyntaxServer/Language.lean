import SyntaxServer.Uri.Basic

/-! # Languages

The languages that documents may be written in, and how the language of a document is told: by the
identifier that an editor gives, or else by the ending of its name.
-/
namespace SyntaxServer

inductive Language where
  | json
  | toml
  | yaml
deriving DecidableEq, Repr, Inhabited

namespace Language

def all : List Language := [json, toml, yaml]

def name : Language → String
  | json => "json"
  | toml => "toml"
  | yaml => "yaml"

private def lower (t : Text) : String := String.ofList (t.map Char.toLower)

/-- The language of an editor's identifier, in any case. -/
def ofId? (id : Text) : Option Language :=
  match lower id with
  | "json" => some json
  | "jsonc" => some json
  | "toml" => some toml
  | "yaml" => some yaml
  | "yml" => some yaml
  | _ => none

/-- The language of a name's ending, in any case. -/
def ofExtension? (extension : Text) : Option Language :=
  match lower extension with
  | "json" => some json
  | "toml" => some toml
  | "yaml" => some yaml
  | "yml" => some yaml
  | _ => none

/-- What follows the last dot of a name. -/
def afterLastDot? (name : Text) : Option Text :=
  if name.contains '.' then some (name.reverse.takeWhile (· ≠ '.')).reverse else none

/-- The language by the last segment of a path. -/
def ofUri? (uri : Uri) : Option Language := do
  let names ← uri.segments?
  let last ← names.getLast?
  let extension ← afterLastDot? last
  ofExtension? extension

/-- The language of a document: by its identifier if that is known, else by its URI. -/
def ofDocument? (uri : Uri) (id : Option Text) : Option Language :=
  (id >>= ofId?).or (ofUri? uri)

end Language

end SyntaxServer
