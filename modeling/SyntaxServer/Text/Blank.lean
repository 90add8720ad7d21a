import SyntaxServer.Text.Basic

/-! # Blank characters

The characters with the Unicode property `White_Space`.
-/
namespace SyntaxServer.Text

def isBlank (c : Char) : Bool :=
  let n := c.toNat
  (0x09 ≤ n && n ≤ 0x0D) || n == 0x20 || n == 0x85 || n == 0xA0 || n == 0x1680 ||
    (0x2000 ≤ n && n ≤ 0x200A) || n == 0x2028 || n == 0x2029 || n == 0x202F || n == 0x205F ||
    n == 0x3000

/-- A text without what satisfies `p` at its end. -/
def trimEnd (p : Char → Bool) (t : Text) : Text := (t.reverse.dropWhile p).reverse

/-- A text without the blanks around it. -/
def trim (t : Text) : Text := trimEnd isBlank (t.dropWhile isBlank)

end SyntaxServer.Text
