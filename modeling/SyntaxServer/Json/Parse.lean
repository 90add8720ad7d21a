import SyntaxServer.Json.Number
import SyntaxServer.Text.Hexadecimal

/-! # Reading JSON text

Strict JSON: no comments, no trailing commas, no raw control characters in strings and no escape of half
a surrogate pair. Containers may be nested 127 deep.
-/
namespace SyntaxServer.Json

def isBlank (c : Char) : Bool := c = ' ' || c = '\t' || c = '\n' || c = '\r'

def skipBlank (t : Text) : Text := t.dropWhile isBlank

def hex4? (a b c d : Char) : Option Nat := do
  return (((← Hexadecimal.digit? a) * 16 + (← Hexadecimal.digit? b)) * 16 + (← Hexadecimal.digit? c)) * 16 + (← Hexadecimal.digit? d)

/-- The character that a one-letter escape stands for. -/
def escaped? : Char → Option Char
  | '"' => some '"'
  | '\\' => some '\\'
  | '/' => some '/'
  | 'b' => some '\x08'
  | 'f' => some '\x0c'
  | 'n' => some '\n'
  | 'r' => some '\r'
  | 't' => some '\t'
  | _ => none

def isHighHalf (n : Nat) : Bool := 0xD800 ≤ n && n < 0xDC00

def isLowHalf (n : Nat) : Bool := 0xDC00 ≤ n && n < 0xE000

/-- The character of a surrogate pair. -/
def joinHalves (high low : Nat) : Char :=
  Char.ofNat (0x10000 + (high - 0xD800) * 0x400 + (low - 0xDC00))

/-- The rest of a string behind its opening quote; `acc` holds the characters read, last first. -/
def stringFrom? (acc : Text) : Text → Option (Text × Text)
  | [] => none
  | '"' :: t => some (acc.reverse, t)
  | '\\' :: 'u' :: a :: b :: c :: d :: t =>
    match hex4? a b c d with
    | none => none
    | some n =>
      if isHighHalf n then
        match t with
        | '\\' :: 'u' :: a :: b :: c :: d :: t =>
          match hex4? a b c d with
          | none => none
          | some m => if isLowHalf m then stringFrom? (joinHalves n m :: acc) t else none
        | _ => none
      else if isLowHalf n then none
      else stringFrom? (Char.ofNat n :: acc) t
  | '\\' :: e :: t =>
    match escaped? e with
    | none => none
    | some c => stringFrom? (c :: acc) t
  | c :: t => if c < ' ' then none else stringFrom? (c :: acc) t

/-- A fixed word. -/
def word? (word : String) (v : Json) (t : Text) : Option (Json × Text) :=
  if word.toList.isPrefixOf t then some (v, t.drop word.length) else none

/-- A value that is no container. -/
def scalar? (t : Text) : Option (Json × Text) :=
  match t with
  | '"' :: t => (stringFrom? [] t).map fun (s, t) => (string (String.ofList s), t)
  | 'n' :: _ => word? "null" null t
  | 't' :: _ => word? "true" (bool true) t
  | 'f' :: _ => word? "false" (bool false) t
  | _ => number? t

variable {α : Type}

/-- Items with commas between them up to the closing bracket; each item takes at least one character,
so the length of the text bounds their number. -/
def itemsFrom? (item? : Text → Option (α × Text)) (close : Char) :
    Nat → List α → Text → Option (List α × Text)
  | 0, _, _ => none
  | n + 1, acc, t =>
    match item? t with
    | none => none
    | some (a, t) =>
      match skipBlank t with
      | [] => none
      | c :: t =>
        if c = ',' then itemsFrom? item? close n (a :: acc) t
        else if c = close then some ((a :: acc).reverse, t)
        else none

/-- What stands in a container behind its opening bracket. -/
def items? (item? : Text → Option (α × Text)) (close : Char) (t : Text) :
    Option (List α × Text) :=
  match skipBlank t with
  | [] => none
  | c :: rest => if c = close then some ([], rest) else itemsFrom? item? close t.length [] t

/-- A member of an object. -/
def member? (value? : Text → Option (Json × Text)) (t : Text) :
    Option ((String × Json) × Text) := do
  let '"' :: t := skipBlank t | none
  let (name, t) ← stringFrom? [] t
  let ':' :: t := skipBlank t | none
  let (v, t) ← value? t
  return ((String.ofList name, v), t)

/-- A value with containers nested at most `depth` deep. -/
def value? : Nat → Text → Option (Json × Text)
  | 0, t => scalar? (skipBlank t)
  | depth + 1, t =>
    match skipBlank t with
    | '[' :: t => (items? (value? depth) ']' t).map fun (vs, t) => (array vs, t)
    | '{' :: t => (items? (member? (value? depth)) '}' t).map fun (ms, t) => (object ms, t)
    | t => scalar? t

def maxDepth : Nat := 127

/-- The value that a text holds, with nothing but blanks around it. -/
def parse? (t : Text) : Option Json := do
  let (v, t) ← value? maxDepth t
  if skipBlank t = [] then some v else none

def parseBytes? (s : Bytes) : Option Json := Utf8.decode? s >>= parse?

end SyntaxServer.Json
