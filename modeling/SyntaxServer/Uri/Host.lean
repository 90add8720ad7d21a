import SyntaxServer.Text.Decimal
import SyntaxServer.Uri.Domain.Basic
import SyntaxServer.Uri.Escape

/-! # Hosts

The host of a network scheme is a domain name, an IPv4 address when its last label is a number, or an
IPv6 address in brackets. Other schemes keep a host as it is written. Each reader gives the host in its
normal form.
-/
namespace SyntaxServer.Uri

/-- The value of a text as a number to a base, if all its characters are digits of that base. -/
def numeral? (base : Nat) (t : Text) : Option Nat :=
  t.foldlM (fun n c => do
    let d ← (if Decimal.isDigit c then some (Decimal.digitValue c)
      else if 'a' ≤ c.toLower ∧ c.toLower ≤ 'f' then some (c.toLower.toNat - 'a'.toNat + 10)
      else none)
    if d < base then some (n * base + d) else none) 0

/-- A part of an IPv4 address, in decimal, octal or hexadecimal. -/
def ipv4Part? (t : Text) : Option Nat :=
  match t with
  | [] => none
  | '0' :: 'x' :: t => numeral? 16 t
  | '0' :: 'X' :: t => numeral? 16 t
  | '0' :: d :: t => numeral? 8 (d :: t)
  | t => numeral? 10 t

/-- The labels of a name, without the empty one behind a final dot. -/
def labels (name : Text) : List Text :=
  let parts := splitOn (· == '.') name
  if 1 < parts.length ∧ parts.getLast? = some [] then parts.dropLast else parts

/-- A name whose last label is a number can only be an IPv4 address. -/
def endsInNumber (name : Text) : Bool :=
  match (labels name).getLast? with
  | none => false
  | some last =>
    !last.isEmpty && (last.all Decimal.isDigit || (ipv4Part? last).isSome)

def renderIpv4 (n : Nat) : Text :=
  let byte (k : Nat) := Decimal.render (n / Nat.pow 256 k % 256)
  byte 3 ++ '.' :: byte 2 ++ '.' :: byte 1 ++ '.' :: byte 0

/-- An IPv4 address; the last part fills the bytes that the others leave. -/
def ipv4? (name : Text) : Option Text := do
  let parts := labels name
  if 4 < parts.length then none
  else
    let numbers ← parts.mapM ipv4Part?
    let last ← numbers.getLast?
    let front := numbers.dropLast
    if front.any (255 < ·) ∨ Nat.pow 256 (4 - front.length) ≤ last then none
    else
      let high := front.foldl (fun n b => n * 256 + b) 0
      return renderIpv4 (high * Nat.pow 256 (4 - front.length) + last)

/-- A byte of a dotted tail, without leading zeros. -/
def dottedByte? (t : Text) : Option Nat := do
  let n ← numeral? 10 t
  if t.isEmpty ∨ (t.head? = some '0' ∧ 1 < t.length) ∨ 255 < n then none else some n

/-- A dotted address as two pieces of an IPv6 address. -/
def dottedTail? (t : Text) : Option (List Nat) := do
  let bytes ← (splitOn (· == '.') t).mapM dottedByte?
  match bytes with
  | [a, b, c, d] => some [a * 256 + b, c * 256 + d]
  | _ => none

def ipv6Piece? (t : Text) : Option Nat :=
  if t.isEmpty ∨ 4 < t.length then none else numeral? 16 t

/-- Pieces with colons between them; a dotted address may stand last where `tail` allows it. -/
def ipv6Pieces? (tail : Bool) : List Text → Option (List Nat)
  | [] => some []
  | [t] => if tail && t.contains '.' then dottedTail? t else (ipv6Piece? t).map ([·])
  | t :: ts => do return (← ipv6Piece? t) :: (← ipv6Pieces? tail ts)

/-- The parts before and behind the first double colon. -/
def splitGap : Text → Text × Option Text
  | [] => ([], none)
  | ':' :: ':' :: t => ([], some t)
  | c :: t =>
    let (front, back) := splitGap t
    (c :: front, back)

def ipv6PiecesOf? (tail : Bool) (t : Text) : Option (List Nat) :=
  if t.isEmpty then some [] else ipv6Pieces? tail (splitOn (· == ':') t)

/-- The eight pieces of an IPv6 address; a double colon stands for at least one zero piece. -/
def ipv6? (t : Text) : Option (List Nat) := do
  match splitGap t with
  | (front, none) =>
    let pieces ← ipv6Pieces? true (splitOn (· == ':') front)
    if pieces.length = 8 then some pieces else none
  | (front, some back) =>
    let front ← ipv6PiecesOf? false front
    let back ← ipv6PiecesOf? true back
    let n := front.length + back.length
    if 7 < n then none else some (front ++ List.replicate (8 - n) 0 ++ back)

/-- Start and length of the first longest run of zeros; `i` counts the pieces before. -/
def longestZeros : Nat → List Nat → Nat × Nat
  | _, [] => (0, 0)
  | i, p :: ps =>
    let here := ((p :: ps).takeWhile (· == 0)).length
    let later := longestZeros (i + 1) ps
    if later.2 ≤ here then (i, here) else later

def renderPieces (ps : List Nat) : Text :=
  [':'].intercalate (ps.map (Nat.toDigits 16 ·))

def renderIpv6 (ps : List Nat) : Text :=
  let (start, run) := longestZeros 0 ps
  let inner :=
    if 2 ≤ run then renderPieces (ps.take start) ++ [':', ':'] ++ renderPieces (ps.drop (start + run))
    else renderPieces ps
  '[' :: inner ++ [']']

/-- The address between brackets. -/
def bracketed? (t : Text) : Option Text :=
  match t.getLast? with
  | some ']' => (ipv6? (t.drop 1).dropLast).map renderIpv6
  | _ => none

/-- The host of a network scheme or of a file. -/
def domainHost? (t : Text) : Option Text :=
  match t with
  | '[' :: _ => bracketed? t
  | _ => do
    let decoded ← Utf8.decode? (unescape (Utf8.encode t))
    let name ← Domain.normal? decoded
    if name.isEmpty then none
    else if endsInNumber name then ipv4? name
    else some name

/-- The host of any other scheme. -/
def plainHost? (t : Text) : Option Text :=
  match t with
  | '[' :: _ => bracketed? t
  | _ => if t.any forbiddenHost.contains then none else some (escape [] t)

end SyntaxServer.Uri
