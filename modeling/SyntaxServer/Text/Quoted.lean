import SyntaxServer.Text.Basic
import SyntaxServer.Text.Combining
import SyntaxServer.Text.Unprintable

/-! # Quoted text

Text of others is quoted in messages: between double quotes, with everything escaped that would end the
quotation, break the line or not show.
-/
namespace SyntaxServer.Text

/-- A character by its number, in lower-case hexadecimal. -/
def numbered (c : Char) : Text :=
  ['\\', 'u', '\x7b'] ++ Nat.toDigits 16 c.toNat ++ ['\x7d']

def quoteChar (c : Char) : Text :=
  if c = '"' ∨ c = '\\' then ['\\', c]
  else if c = '\x00' then ['\\', '0']
  else if c = '\t' then ['\\', 't']
  else if c = '\n' then ['\\', 'n']
  else if c = '\r' then ['\\', 'r']
  else if isCombining c || isUnprintable c then numbered c
  else [c]

def quote (t : Text) : Text := '"' :: t.flatMap quoteChar ++ ['"']

def quoteString (s : String) : String := String.ofList (quote s.toList)

end SyntaxServer.Text
