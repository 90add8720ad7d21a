import SyntaxServer.Text.Basic

/-! # UTF-8

Texts as bytes. Reading is strict: a truncated or overlong form, a surrogate or a number above the
last code point is refused.
-/
namespace SyntaxServer

abbrev Bytes := List UInt8

namespace Utf8

def encode (t : Text) : Bytes := t.flatMap String.utf8EncodeChar

def encodeString (s : String) : Bytes := encode s.toList

/-- A byte that continues a character. -/
def isTail (b : UInt8) : Bool := 0x80 ≤ b && b ≤ 0xBF

/-- The six bits a continuing byte carries. -/
def tailBits (b : UInt8) : Nat := b.toNat % 64

/-- Whether `b` may stand behind the first byte of a character of three or four bytes: the least and
greatest second bytes keep out overlong forms, surrogates and too large numbers. -/
def isSecond (a b : UInt8) : Bool :=
  isTail b &&
    (a != 0xE0 || 0xA0 ≤ b) && (a != 0xED || b ≤ 0x9F) &&
    (a != 0xF0 || 0x90 ≤ b) && (a != 0xF4 || b ≤ 0x8F)

/-- Reads bytes behind the characters `acc`, which are held last first. -/
def decodeFrom (acc : Text) : Bytes → Option Text
  | [] => some acc.reverse
  | a :: s =>
    if a < 0x80 then decodeFrom (Char.ofNat a.toNat :: acc) s
    else if a < 0xC2 then none
    else if a < 0xE0 then
      match s with
      | b :: s =>
        if isTail b then decodeFrom (Char.ofNat (a.toNat % 32 * 64 + tailBits b) :: acc) s
        else none
      | _ => none
    else if a < 0xF0 then
      match s with
      | b :: c :: s =>
        if isSecond a b && isTail c then
          decodeFrom
            (Char.ofNat (a.toNat % 16 * 4096 + tailBits b * 64 + tailBits c) :: acc) s
        else none
      | _ => none
    else if a < 0xF5 then
      match s with
      | b :: c :: d :: s =>
        if isSecond a b && isTail c && isTail d then
          decodeFrom
            (Char.ofNat (a.toNat % 8 * 262144 + tailBits b * 4096 + tailBits c * 64 + tailBits d)
              :: acc) s
        else none
      | _ => none
    else none

def decode? (s : Bytes) : Option Text := decodeFrom [] s

end Utf8

end SyntaxServer
