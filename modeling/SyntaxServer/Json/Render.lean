import SyntaxServer.Json.Parse

/-! # Writing JSON text

The compact form: no blanks, and in strings only the quote, the backslash and control characters are
escaped.
-/
namespace SyntaxServer.Json

def escape (c : Char) : Text :=
  if c = '"' then ['\\', '"']
  else if c = '\\' then ['\\', '\\']
  else if c = '\n' then ['\\', 'n']
  else if c = '\r' then ['\\', 'r']
  else if c = '\t' then ['\\', 't']
  else if c = '\x08' then ['\\', 'b']
  else if c = '\x0c' then ['\\', 'f']
  else if c < ' ' then
    ['\\', 'u', '0', '0', Nat.digitChar (c.toNat / 16), Nat.digitChar (c.toNat % 16)]
  else [c]

def renderString (s : String) : Text := '"' :: s.toList.flatMap escape ++ ['"']

mutual

def render : Json → Text
  | null => "null".toList
  | bool b => (if b then "true" else "false").toList
  | int n => (toString n).toList
  | decimal m e => (toString m).toList ++ 'e' :: (toString e).toList
  | string s => renderString s
  | array items => '[' :: renderItems items ++ [']']
  | object members => '{' :: renderMembers members ++ ['}']

def renderItems : List Json → Text
  | [] => []
  | [v] => render v
  | v :: vs => render v ++ ',' :: renderItems vs

def renderMembers : List (String × Json) → Text
  | [] => []
  | [(name, v)] => renderString name ++ ':' :: render v
  | (name, v) :: ms => renderString name ++ ':' :: render v ++ ',' :: renderMembers ms

end

def renderBytes (v : Json) : Bytes := Utf8.encode v.render

end SyntaxServer.Json
