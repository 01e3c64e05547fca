import LineLexer.Text.Column
import LineLexer.Text.Printable

/-!
# Quoted text

A text between double quotes with escapes for the quote, the backslash and every
character that is not printable, so that it fits on one line of a message.
-/

namespace LineLexer.Text

/-- How a character is written inside double quotes. -/
def escape (c : Char) : String :=
  if c = '"' then "\\\""
  else if c = '\\' then "\\\\"
  else if c = '\t' then "\\t"
  else if c = '\n' then "\\n"
  else if c = '\r' then "\\r"
  else if c.toNat = 0 then "\\0"
  else if isPrintable c then String.singleton c
  else "\\u\x7b" ++ hexNumber c.toNat ++ "\x7d"

/-- A text between double quotes. -/
def quoted (text : String) : String :=
  "\"" ++ String.join (text.toList.map escape) ++ "\""

end LineLexer.Text
