import SyntaxServer.Json.Basic
import SyntaxServer.Text.Decimal

/-! # Numbers in JSON text

An integer is one that is written without fraction and exponent, is not a negative zero and fits 64
bits, signed or unsigned. Every other number is a decimal, which has to be small enough for a
double.
-/
namespace SyntaxServer.Json

/-- A natural number rounded to 53 significant bits, a tie going to the even neighbour. -/
def round53 (n : Nat) : Nat :=
  if n < Nat.pow 2 53 then n
  else
    let ulp := Nat.pow 2 (n.log2 - 52)
    let below := n / ulp
    let double := 2 * (n % ulp)
    if double < ulp ∨ (double = ulp ∧ below % 2 = 0) then below * ulp else (below + 1) * ulp

/-- The least number that is rounded to infinity. -/
def infinityBound : Nat := Nat.pow 2 1024 - Nat.pow 2 970

/-- The digits that fit 64 bits, read as a number, and how many are left over. -/
def significand : Nat → Text → Nat × Nat
  | n, [] => (n, 0)
  | n, c :: cs =>
    let m := n * 10 + Decimal.digitValue c
    if m < UInt64.size then significand m cs else (n, cs.length + 1)

/-- Whether a decimal with these digits and this exponent of ten is too large for a double. The
significand and the power of ten are rounded before they are multiplied. -/
def overflows (digits : Text) (exponent : Int) : Bool :=
  let (n, dropped) := significand 0 digits
  match exponent + dropped with
  | .negSucc _ => false
  | .ofNat e => n ≠ 0 ∧ (308 < e ∨ infinityBound ≤ round53 n * round53 (Nat.pow 10 e))

/-- The digits at the beginning of a text, and what follows them. -/
def spanDigits (t : Text) : Text × Text := (t.takeWhile Decimal.isDigit, t.dropWhile Decimal.isDigit)

/-- An optional fraction. -/
def fraction? : Text → Option (Text × Text)
  | '.' :: t =>
    match spanDigits t with
    | ([], _) => none
    | found => some found
  | t => some ([], t)

/-- An optional exponent; its sign is dropped when there is none. -/
def exponent? : Text → Option (Option Int × Text)
  | c :: t =>
    if c = 'e' ∨ c = 'E' then
      let (negative, t) := match t with
        | '+' :: t => (false, t)
        | '-' :: t => (true, t)
        | t => (false, t)
      match spanDigits t with
      | ([], _) => none
      | (ds, t) => some (some (if negative then -(Decimal.value ds) else Decimal.value ds), t)
    else some (none, c :: t)
  | [] => some (none, [])

/-- The value of a number with the given sign and parts. -/
def numberOfParts? (negative : Bool) (whole fraction : Text) (exponent : Option Int) :
    Option Json :=
  let n := Decimal.value whole
  let integral := fraction.isEmpty && exponent.isNone
  if integral && !negative && n < UInt64.size then some (int n)
  else if integral && negative && 0 < n && n ≤ Nat.pow 2 63 then some (int (-n))
  else
    let digits := whole ++ fraction
    let e := exponent.getD 0 - fraction.length
    let m : Int := Decimal.value digits
    if overflows digits e then none else some (decimal (if negative then -m else m) e)

/-- A number at the beginning of a text, and what follows it. -/
def number? (t : Text) : Option (Json × Text) := do
  let (negative, t) := match t with
    | '-' :: t => (true, t)
    | t => (false, t)
  let (whole, t) := spanDigits t
  if whole.isEmpty ∨ (whole.head? = some '0' ∧ 1 < whole.length) then none
  else
    let (fraction, t) ← fraction? t
    let (exponent, t) ← exponent? t
    let v ← numberOfParts? negative whole fraction exponent
    return (v, t)

end SyntaxServer.Json
