import LineLexer.Text.Blank
import LineLexer.Text.Invisible
import LineLexer.Text.Mark

/-!
# Printable characters

The characters that a quoted text shows as themselves: neither those that leave no
mark of their own (`invisible`, `ignorable`) nor those that attach to the character
before them (`marks`).
-/

namespace LineLexer.Text

/-- Membership in one of some inclusive ranges of code points. -/
def inRanges (ranges : List (Nat × Nat)) (c : Char) : Bool :=
  ranges.any fun (first, last) => inRange first last c

/-- A character that a quoted text shows as itself. -/
def isPrintable (c : Char) : Bool :=
  inRange 0x20 0x7E c ||
  !(inRanges invisible c || inRanges ignorable c || inRanges marks c)

end LineLexer.Text
