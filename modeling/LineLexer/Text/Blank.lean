/-!
# Blank characters

`isBlank` is the Unicode property White_Space, and the trimming functions cut
runs of such characters off the ends of a text. The zero width space and the
byte order mark do not have the property, so trimming keeps them.
-/

namespace LineLexer.Text

/-- Membership in an inclusive range of code points. -/
def inRange (first last : Nat) (c : Char) : Bool :=
  first ≤ c.toNat && c.toNat ≤ last

/-- The Unicode property White_Space. -/
def isBlank (c : Char) : Bool :=
  inRange 0x0009 0x000D c || c.toNat == 0x0020 || c.toNat == 0x0085 || c.toNat == 0x00A0 ||
  c.toNat == 0x1680 || inRange 0x2000 0x200A c || inRange 0x2028 0x2029 c ||
  c.toNat == 0x202F || c.toNat == 0x205F || c.toNat == 0x3000

/-- A text without its leading blanks. -/
def trimStart (text : List Char) : List Char :=
  text.dropWhile isBlank

/-- A text without its trailing blanks. -/
def trimEnd (text : List Char) : List Char :=
  (text.reverse.dropWhile isBlank).reverse

/-- A text without blanks at either end. -/
def trim (text : List Char) : List Char :=
  trimEnd (trimStart text)

end LineLexer.Text
