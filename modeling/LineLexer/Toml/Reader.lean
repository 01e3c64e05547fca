/-!
# Reading a configuration file

Every reader takes the characters that lie ahead and gives what it read together
with the characters after it, or `none` if the text is malformed. This module has
the readers of blanks, comments and line breaks.
-/

namespace LineLexer.Toml

/-- Reads something off the front of a text. -/
abbrev Reader (α : Type) := List Char → Option (α × List Char)

/-- A blank within a line. -/
def isSpace (c : Char) : Bool :=
  c == ' ' || c == '\t'

/-- A character that may stand in comments and strings. -/
def isTextChar (c : Char) : Bool :=
  c == '\t' || (0x20 ≤ c.toNat && c.toNat != 0x7F)

/-- The text behind blanks. -/
def skipSpaces (text : List Char) : List Char :=
  text.dropWhile isSpace

/-- The text behind a line break. -/
def newline? : List Char → Option (List Char)
  | '\n' :: rest => some rest
  | '\r' :: '\n' :: rest => some rest
  | _ => none

/-- The text behind blanks and line breaks; a carriage return alone is neither. -/
def skipBlankLines : List Char → List Char
  | '\n' :: rest => skipBlankLines rest
  | '\r' :: '\n' :: rest => skipBlankLines rest
  | c :: rest => if isSpace c then skipBlankLines rest else c :: rest
  | [] => []

/-- The text behind blanks and a comment. -/
def skipComment (text : List Char) : List Char :=
  match skipSpaces text with
  | '#' :: rest => rest.dropWhile isTextChar
  | rest => rest

/-- The text behind the rest of a line that holds nothing more than a comment. -/
def lineEnd? (text : List Char) : Option (List Char) :=
  match skipComment text with
  | [] => some []
  | rest => newline? rest

/-- The text behind blanks, comments and line breaks. -/
def skipLines : Nat → List Char → List Char
  | 0, text => text
  | fuel + 1, text =>
    match newline? (skipComment text) with
    | some rest => skipLines fuel rest
    | none => skipComment text

/-- The text behind a given character. -/
def expect (c : Char) : List Char → Option (List Char)
  | d :: rest => if c = d then some rest else none
  | [] => none

/-- Puts a character in front of what was read. -/
def prepend (c : Char) : List Char × List Char → List Char × List Char
  | (content, rest) => (c :: content, rest)

/-- The value of a digit of any base up to sixteen. -/
def digitValue (c : Char) : Nat :=
  if c.isDigit then c.toNat - 48 else c.toLower.toNat - 87

/-- The value of digits in a base. -/
def valueOf (base : Nat) (digits : List Char) : Nat :=
  digits.foldl (fun value c => value * base + digitValue c) 0

end LineLexer.Toml
