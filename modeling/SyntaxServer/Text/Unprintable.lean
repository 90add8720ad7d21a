import SyntaxServer.Text.Unassigned

/-! # Unprintable characters

The code points that show nothing of their own: controls, format characters, separators other than the
space, and what is not assigned.
-/
namespace SyntaxServer.Text

/-- Controls, format characters and separators. -/
def hiddenRanges : List CodeRange := CodeTable.ranges "
  0-1F 7F-A0 AD 600-605 61C 6DD 70F 890-891 8E2 1680 180E 2000-200F 2028-202F 205F-2064 2066-206F
  3000 FEFF FFF9-FFFB 110BD 110CD 13430-1343F 1BCA0-1BCA3 1D173-1D17A E0001 E0020-E007F"

def isUnprintable (c : Char) : Bool := CodeTable.holds hiddenRanges c.toNat || isUnassigned c

end SyntaxServer.Text
