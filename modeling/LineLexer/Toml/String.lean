import LineLexer.CharClass
import LineLexer.Toml.Reader

/-!
# Strings and keys of a configuration file

A string stands between double quotes, where a backslash escapes, or between
single quotes, where every character stands for itself. Three quotes in a row
enclose a string of several lines. A key is a sequence of names with dots between
them.
-/

namespace LineLexer.Toml

/-- The character of a hexadecimal escape. -/
def unicodeEscape? (digits : List Char) : Option Char :=
  if digits.all CharClass.isHexDigit then
    let value := valueOf 16 digits
    if value.isValidChar then some (Char.ofNat value) else none
  else none

/-- The character of an escape, behind the backslash. -/
def escape? : Reader Char
  | 'b' :: rest => some ('\x08', rest)
  | 't' :: rest => some ('\t', rest)
  | 'n' :: rest => some ('\n', rest)
  | 'f' :: rest => some ('\x0c', rest)
  | 'r' :: rest => some ('\r', rest)
  | '"' :: rest => some ('"', rest)
  | '\\' :: rest => some ('\\', rest)
  | 'u' :: rest =>
    if 4 ≤ rest.length then (unicodeEscape? (rest.take 4)).map (·, rest.drop 4) else none
  | 'U' :: rest =>
    if 8 ≤ rest.length then (unicodeEscape? (rest.take 8)).map (·, rest.drop 8) else none
  | _ => none

/-- The rest of a string between double quotes. -/
def basicString : Nat → Reader (List Char)
  | 0, _ => none
  | fuel + 1, text =>
    match text with
    | '"' :: rest => some ([], rest)
    | '\\' :: rest => do
      let (c, rest) ← escape? rest
      (basicString fuel rest).map (prepend c)
    | c :: rest => if isTextChar c then (basicString fuel rest).map (prepend c) else none
    | [] => none

/-- The rest of a string between single quotes. -/
def literalString : Reader (List Char)
  | '\'' :: rest => some ([], rest)
  | c :: rest => if isTextChar c then (literalString rest).map (prepend c) else none
  | [] => none

/-- The closing quotes of a string of several lines, with up to two quotes before them that
belong to the string. -/
def closing? (quote : Char) (text : List Char) : Option (List Char × List Char) :=
  let count := (text.takeWhile (· = quote)).length
  if count < 3 then none
  else
    let kept := min (count - 3) 2
    some (List.replicate kept quote, text.drop (kept + 3))

/-- The text behind a backslash that ends a line, up to the next character that is no blank. -/
def joinedLine? (text : List Char) : Option (List Char) :=
  (newline? (skipSpaces text)).map skipBlankLines

/-- The rest of a string of several lines; backslashes escape between double quotes only. -/
def longString (quote : Char) : Nat → Reader (List Char)
  | 0, _ => none
  | fuel + 1, text =>
    match closing? quote text with
    | some result => some result
    | none =>
      match newline? text with
      | some rest => (longString quote fuel rest).map (prepend '\n')
      | none =>
        match text with
        | [] => none
        | c :: rest =>
          if c = '\\' ∧ quote = '"' then
            match joinedLine? rest with
            | some rest => longString quote fuel rest
            | none => do
              let (c, rest) ← escape? rest
              (longString quote fuel rest).map (prepend c)
          else if isTextChar c then (longString quote fuel rest).map (prepend c)
          else none

/-- The text behind a line break at its very start. -/
def skipNewline (text : List Char) : List Char :=
  (newline? text).getD text

/-- A string on one line. -/
def shortString? : Reader (List Char)
  | '"' :: rest => basicString (rest.length + 1) rest
  | '\'' :: rest => literalString rest
  | _ => none

/-- A string of any of the four forms. -/
def string? : Reader (List Char)
  | '"' :: '"' :: '"' :: rest => longString '"' (rest.length + 1) (skipNewline rest)
  | '\'' :: '\'' :: '\'' :: rest => longString '\'' (rest.length + 1) (skipNewline rest)
  | text => shortString? text

/-! ## Keys -/

/-- A character of a key without quotes. -/
def isKeyChar (c : Char) : Bool :=
  c.isAlphanum || c == '_' || c == '-'

/-- A key without dots. -/
def simpleKey? (text : List Char) : Option (String × List Char) :=
  match text with
  | '"' :: _ | '\'' :: _ => (shortString? text).map fun (key, rest) => (String.ofList key, rest)
  | _ =>
    let key := text.takeWhile isKeyChar
    if key.isEmpty then none else some (String.ofList key, text.dropWhile isKeyChar)

/-- A dotted key: its names, with blanks allowed around them. -/
def key? : Nat → Reader (List String)
  | 0, _ => none
  | fuel + 1, text => do
    let (name, rest) ← simpleKey? (skipSpaces text)
    match skipSpaces rest with
    | '.' :: rest =>
      let (names, rest) ← key? fuel rest
      some (name :: names, rest)
    | rest => some ([name], rest)

end LineLexer.Toml
