import LineLexer.Toml.DateTime
import LineLexer.Toml.Number
import LineLexer.Toml.String
import LineLexer.Toml.Table

/-!
# Configuration files

`parse?` reads a configuration file in the format TOML 1.0 as a table. Values
nest less than `depthLimit` deep.
-/

namespace LineLexer.Toml

/-- Bounds how deep lists and inline tables nest, and how many names a key has. -/
def depthLimit : Nat := 80

/-- A key of a pair or header. -/
def boundedKey? (text : List Char) : Option (List String × List Char) := do
  let (path, rest) ← key? (text.length + 1) text
  if path.length < depthLimit then some (path, rest) else none

mutual

/-- A value at a remaining depth. -/
def value? : Nat → Nat → Reader Setting
  | 0, _, _ => none
  | fuel + 1, depth, text =>
    match text with
    | '"' :: _ | '\'' :: _ =>
      (string? text).map fun (content, rest) => (.text (String.ofList content), rest)
    | '[' :: rest =>
      match depth with
      | 0 => none
      | depth + 1 => (items? fuel depth rest).map fun (items, rest) => (.list items, rest)
    | '{' :: rest =>
      match depth with
      | 0 => none
      | depth + 1 =>
        match skipSpaces rest with
        | '}' :: rest => some (.table .inline [], rest)
        | rest => (pairs? fuel depth [] rest).map fun (fields, rest) => (.table .inline fields, rest)
    | 't' :: 'r' :: 'u' :: 'e' :: rest => some (.boolean true, rest)
    | 'f' :: 'a' :: 'l' :: 's' :: 'e' :: rest => some (.boolean false, rest)
    | _ => if isDateTime text then dateTime? text else number? text

/-- The rest of a list behind its bracket or a comma. -/
def items? : Nat → Nat → Reader (List Setting)
  | 0, _, _ => none
  | fuel + 1, depth, text =>
    match skipLines text.length text with
    | ']' :: rest => some ([], rest)
    | text => do
      let (item, rest) ← value? fuel depth text
      match skipLines rest.length rest with
      | ',' :: rest =>
        let (items, rest) ← items? fuel depth rest
        some (item :: items, rest)
      | ']' :: rest => some ([item], rest)
      | _ => none

/-- The rest of an inline table behind its brace or a comma, given the fields before it. -/
def pairs? : Nat → Nat → Fields → Reader Fields
  | 0, _, _, _ => none
  | fuel + 1, depth, fields, text => do
    let (path, rest) ← boundedKey? text
    let (setting, rest) ← value? fuel depth (skipSpaces (← expect '=' rest))
    let fields ← insert path setting fields
    match skipSpaces rest with
    | ',' :: rest => pairs? fuel depth fields rest
    | '}' :: rest => some (fields, rest)
    | _ => none

end

/-- A key with its value, on a line of its own. -/
def pair? (text : List Char) : Option (List String × Setting × List Char) := do
  let (path, rest) ← boundedKey? text
  let (setting, rest) ← value? (2 * rest.length + 2) (depthLimit - 1) (skipSpaces (← expect '=' rest))
  some (path, setting, ← lineEnd? rest)

/-- The lines of a file, given the path of the current table and all fields so far. -/
def lines? : Nat → List String → Fields → List Char → Option Fields
  | 0, _, _, _ => none
  | fuel + 1, current, fields, text =>
    match skipSpaces text with
    | [] => some fields
    | '#' :: _ | '\n' :: _ | '\r' :: _ => do
      lines? fuel current fields (← lineEnd? (skipSpaces text))
    | '[' :: '[' :: rest => do
      let (path, rest) ← boundedKey? rest
      let fields ← atHeader path appendTable fields
      lines? fuel path fields (← lineEnd? (← expect ']' (← expect ']' rest)))
    | '[' :: rest => do
      let (path, rest) ← boundedKey? rest
      let fields ← atHeader path openTable fields
      lines? fuel path fields (← lineEnd? (← expect ']' rest))
    | text => do
      let (path, setting, rest) ← pair? text
      lines? fuel current (← within current (insert path setting) fields) rest

/-- The text behind a byte order mark. -/
def skipMark : List Char → List Char
  | '\uFEFF' :: rest => rest
  | text => text

/-- Reads a file as a table. -/
def parse? (text : String) : Option Setting :=
  let chars := skipMark text.toList
  (lines? (chars.length + 1) [] [] chars).map (.table .header)

end LineLexer.Toml
