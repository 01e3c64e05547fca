/-!
# Columns of a listing

Padding to a least width, and hexadecimal numbers with a fixed number of
digits. A text wider than its column is written in full.
-/

namespace LineLexer.Text

/-- Right-aligned: blanks in front up to the given width. -/
def padLeft (width : Nat) (text : String) : String :=
  String.ofList (List.replicate (width - text.length) ' ') ++ text

/-- Left-aligned: blanks behind up to the given width. -/
def padRight (width : Nat) (text : String) : String :=
  text ++ String.ofList (List.replicate (width - text.length) ' ')

/-- The lower-case hexadecimal digit of a number below sixteen. -/
def hexDigit (n : Nat) : Char :=
  if n < 10 then Char.ofNat (48 + n) else Char.ofNat (87 + n)

/-- The last `width` hexadecimal digits of a number, leading zeros included. -/
def hexDigits : Nat → Nat → List Char
  | 0, _ => []
  | width + 1, n => hexDigits width (n / 16) ++ [hexDigit (n % 16)]

/-- A 64-bit word as sixteen hexadecimal digits. -/
def hexWord (word : UInt64) : String :=
  String.ofList (hexDigits 16 word.toNat)

/-- The hexadecimal digits of a number without leading zeros; zero has one digit. -/
def hexNumber (n : Nat) : String :=
  String.ofList (Nat.toDigits 16 n)

end LineLexer.Text
