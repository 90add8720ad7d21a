import SyntaxServer.Text.Basic

/-! # Decimal digits

Natural numbers in decimal notation, and what a run of digits is worth.
-/
namespace SyntaxServer.Decimal

def isDigit (c : Char) : Bool := '0' ≤ c && c ≤ '9'

def digitValue (c : Char) : Nat := c.toNat - '0'.toNat

/-- The number that digits stand for. -/
def value (digits : Text) : Nat := digits.foldl (fun n c => n * 10 + digitValue c) 0

/-- The digits of a number. -/
def render (n : Nat) : Text := Nat.toDigits 10 n

@[simp] theorem value_nil : value [] = 0 := rfl

end SyntaxServer.Decimal
