import SyntaxServer.Text.Basic

/-! # Hexadecimal digits

What a hexadecimal digit, in either case, and a run of such digits are worth.
-/
namespace SyntaxServer.Hexadecimal

def digit? (c : Char) : Option Nat :=
  if '0' ≤ c ∧ c ≤ '9' then some (c.toNat - '0'.toNat)
  else if 'a' ≤ c ∧ c ≤ 'f' then some (c.toNat - 'a'.toNat + 10)
  else if 'A' ≤ c ∧ c ≤ 'F' then some (c.toNat - 'A'.toNat + 10)
  else none

/-- The number that digits stand for; other characters count as zeros. -/
def value (digits : Text) : Nat := digits.foldl (fun n c => n * 16 + (digit? c).getD 0) 0

@[simp] theorem value_empty : value [] = 0 := rfl

end SyntaxServer.Hexadecimal
