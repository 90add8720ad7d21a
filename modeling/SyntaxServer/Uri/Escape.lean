import SyntaxServer.Text.Utf8

/-! # Percent escapes

A byte is escaped as a percent sign and two upper-case hexadecimal digits. Each part of a URI has its own
set of characters that are escaped in it; controls and everything outside ASCII always are.
-/
namespace SyntaxServer.Uri

def upperHex (n : Nat) : Char := (Nat.digitChar n).toUpper

def escapeByte (b : UInt8) : Text := ['%', upperHex (b.toNat / 16), upperHex (b.toNat % 16)]

/-- Whether a part with the given set has a byte escaped. -/
def mustEscape (set : Text) (b : UInt8) : Bool :=
  b < 0x20 || 0x7F ≤ b || set.contains (Char.ofNat b.toNat)

def escapeBytes (set : Text) (s : Bytes) : Text :=
  s.flatMap fun b => if mustEscape set b then escapeByte b else [Char.ofNat b.toNat]

def escape (set t : Text) : Text := escapeBytes set (Utf8.encode t)

def fragmentSet : Text := [' ', '"', '<', '>', '`']

def querySet : Text := [' ', '"', '#', '<', '>']

/-- Schemes that name a network place have the apostrophe escaped in a query as well. -/
def specialQuerySet : Text := '\'' :: querySet

def pathSet : Text := ['#', '?', '\x7b', '\x7d'] ++ fragmentSet

def userInfoSet : Text := ['/', ':', ';', '=', '@', '[', '\\', ']', '^', '|'] ++ pathSet

/-- The set for a name in a directory path, whose percent signs are escaped too. -/
def fileNameSet : Text := ['%', '/', '\\'] ++ pathSet

def hexOfByte? (b : UInt8) : Option Nat :=
  if 0x30 ≤ b ∧ b ≤ 0x39 then some (b.toNat - 0x30)
  else if 0x61 ≤ b ∧ b ≤ 0x66 then some (b.toNat - 0x61 + 10)
  else if 0x41 ≤ b ∧ b ≤ 0x46 then some (b.toNat - 0x41 + 10)
  else none

/-- The bytes that escaped bytes stand for; a percent sign that starts no escape stands for itself. -/
def unescape : Bytes → Bytes
  | [] => []
  | a :: b :: c :: s =>
    if a = 0x25 then
      match hexOfByte? b, hexOfByte? c with
      | some high, some low => UInt8.ofNat (high * 16 + low) :: unescape s
      | _, _ => a :: unescape (b :: c :: s)
    else a :: unescape (b :: c :: s)
  | a :: s => a :: unescape s

end SyntaxServer.Uri
