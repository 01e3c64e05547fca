import LineLexer.CharClass
import LineLexer.Setting
import LineLexer.Toml.Decimal
import LineLexer.Toml.Reader

/-!
# Numbers of a configuration file

Integers are decimal, or marked as hexadecimal, octal or binary, and have to fit
into 64 bits. Numbers with a fraction or an exponent are recognized unless they are
too large, but no setting has such a value.
-/

namespace LineLexer.Toml

/-- Digits with single underscores between them. -/
def digits? (isDigit : Char → Bool) : Nat → Reader (List Char)
  | 0, _ => none
  | fuel + 1, text =>
    match text with
    | d :: rest =>
      if isDigit d then
        match rest with
        | '_' :: more => (digits? isDigit fuel more).map (prepend d)
        | c :: _ =>
          if isDigit c then (digits? isDigit fuel rest).map (prepend d) else some ([d], rest)
        | [] => some ([d], [])
      else none
    | [] => none

/-- An integer, which has to fit into 64 bits. -/
def integer (value : Int) : Option Setting :=
  if -Nat.pow 2 63 ≤ value ∧ value < Nat.pow 2 63 then some (.integer value) else none

/-- The rest of an integer behind the mark of its base. -/
def basedInteger? (base : Nat) (isDigit : Char → Bool) (text : List Char) :
    Option (Setting × List Char) := do
  let (digits, rest) ← digits? isDigit (text.length + 1) text
  let setting ← integer (valueOf base digits)
  some (setting, rest)

/-- The digits of a decimal integer: no zero leads a second digit. -/
def decimal? : Reader (List Char)
  | '0' :: rest => some (['0'], rest)
  | text => digits? Char.isDigit (text.length + 1) text

/-- A number with the sign that was read before it. -/
def signed (negative : Bool) (value : Nat) : Int :=
  if negative then -value else value

/-- A sign, if there is one: whether it is a minus. -/
def sign : List Char → Bool × List Char
  | '+' :: rest => (false, rest)
  | '-' :: rest => (true, rest)
  | text => (false, text)

/-- The digits of a fraction, if there is one. -/
def fraction? : Reader (Option (List Char))
  | '.' :: rest => (digits? Char.isDigit (rest.length + 1) rest).map fun (digits, rest) =>
    (some digits, rest)
  | text => some (none, text)

/-- An exponent, if there is one. -/
def exponent? : Reader (Option Int)
  | 'e' :: rest | 'E' :: rest =>
    let (negative, rest) := sign rest
    (digits? Char.isDigit (rest.length + 1) rest).map fun (digits, rest) =>
      (some (signed negative (valueOf 10 digits)), rest)
  | text => some (none, text)

/-- A decimal number behind its sign. With a fraction or an exponent it may not be too large; there
is no such limit below zero. -/
def decimalNumber? (negative : Bool) (text : List Char) : Option (Setting × List Char) := do
  let (whole, rest) ← decimal? text
  let (fraction, rest) ← fraction? rest
  let (exponent, rest) ← exponent? rest
  if fraction.isNone && exponent.isNone then
    let setting ← integer (signed negative (valueOf 10 whole))
    some (setting, rest)
  else
    let fraction := fraction.getD []
    let number : Decimal :=
      ⟨valueOf 10 (whole ++ fraction), exponent.getD 0 - fraction.length⟩
    if !negative && number.isTooLarge then none else some (.other, rest)

/-- A number behind its sign; infinity and the undefined number are numbers, too. -/
def signedNumber? (negative : Bool) : Reader Setting
  | 'i' :: 'n' :: 'f' :: rest | 'n' :: 'a' :: 'n' :: rest => some (.other, rest)
  | text => decimalNumber? negative text

/-- A number. -/
def number? : Reader Setting
  | '0' :: 'x' :: rest => basedInteger? 16 CharClass.isHexDigit rest
  | '0' :: 'o' :: rest => basedInteger? 8 (fun c => '0' ≤ c && c ≤ '7') rest
  | '0' :: 'b' :: rest => basedInteger? 2 CharClass.isBinaryDigit rest
  | text =>
    let (negative, rest) := sign text
    signedNumber? negative rest

end LineLexer.Toml
