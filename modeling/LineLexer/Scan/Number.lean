import LineLexer.CharClass
import LineLexer.Scan.Output

/-!
# Scanning numbers

A number literal has up to three parts, each a token of its own: an integer, a
fraction behind a point, and a repetend in parentheses behind the fraction. So
`3.14` is an integer and a fraction, and `0.(3)` an integer, an empty fraction
and a repetend. The radix of the integer governs the digits of all parts. Two
points in a row are no fraction: `1..5` is a range.
-/

namespace LineLexer.Scan

/-- Emits a part of a number; a repetend that is closed here lacks its parenthesis. -/
def closeNumber (cursor : Cursor) (pending : Pending) (stop : Nat) : Output :=
  if pending.category = .repetend then
    .fault .uncompletedRepetend pending.start stop ++ pending.invalidated.close cursor stop
  else pending.close cursor stop

/-- Emits a part of a number and leaves the current character to the next lexeme. -/
def leaveNumber (cursor : Cursor) (pending : Pending) : Step :=
  .again .undemarcated (closeNumber cursor pending cursor.position)

/-- The issue of a character that is no digit of the radix. -/
def digitIssue : Radix → SyntaxIssue
  | .decimal => .illegalCharacterInNumber
  | .binary => .illegalCharacterInBinary
  | .hexadecimal => .illegalCharacterInHex

/-- Keeps a character that is no digit of the radix, with a fault. -/
def illegalDigit (cursor : Cursor) (pending : Pending) (radix : Radix) : Step :=
  .next (.number pending.invalidated radix)
    (.fault (digitIssue radix) cursor.position (cursor.position + 1))

/-- A decimal digit in a number. -/
def digitInNumber (cursor : Cursor) (pending : Pending) (radix : Radix) (c : Char) : Step :=
  if radix = .binary && !CharClass.isBinaryDigit c then illegalDigit cursor pending radix
  else .next (.number pending radix) .empty

/-- An integer that so far is a single zero. -/
def isLoneZero (cursor : Cursor) (pending : Pending) : Bool :=
  pending.category == .integer && pending.width cursor.position == 1 &&
    cursor.charAt? pending.start == some '0'

/-- A letter in a number: the mark of a radix, a hexadecimal digit, or a fault. -/
def letterInNumber (cursor : Cursor) (pending : Pending) (radix : Radix) (c : Char) : Step :=
  if isLoneZero cursor pending && CharClass.isBinaryMark c then
    .next (.number ((pending.recast .binaryInteger).skipping 2) .binary) .empty
  else if isLoneZero cursor pending && CharClass.isHexMark c then
    .next (.number ((pending.recast .hexadecimalInteger).skipping 2) .hexadecimal) .empty
  else if radix = .hexadecimal && CharClass.isHexDigit c then
    .next (.number pending radix) .empty
  else illegalDigit cursor pending radix

/-- A point in a number: it opens a fraction, or makes a range with the point before it. -/
def pointInNumber (cursor : Cursor) (pending : Pending) (radix : Radix) : Step :=
  let column := cursor.position
  let fraction := (Pending.opened .fraction column).skipping 1
  if pending.category.isInteger then
    .next (.number fraction radix) (pending.close cursor column)
  else if pending.category = .fraction ∧ pending.width column = 1 then
    .next .demarcated (.token (.ofSymbol .ellipsis pending.start (column + 1)))
  else
    .next (.number fraction.invalidated radix)
      (closeNumber cursor pending column ++ .fault .invalidNumber pending.start (column + 1))

/-- An opening parenthesis in a number: it opens a repetend, except inside another one. -/
def openRepetend (cursor : Cursor) (pending : Pending) (radix : Radix) : Step :=
  let column := cursor.position
  let repetend := (Pending.opened .repetend column).skipping 1
  match pending.category with
  | .fraction => .next (.number repetend radix) (pending.close cursor column)
  | .repetend => leaveNumber cursor pending
  | _ =>
    .next (.number repetend.invalidated radix)
      (pending.close cursor column ++ .fault .missingDecimalPoint pending.start (column + 1))

/-- Gives the current character to a number, or emits the part under construction. -/
def resumeNumber (cursor : Cursor) (pending : Pending) (radix : Radix) (c : Char) : Step :=
  let column := cursor.position
  match CharClass.of c with
  | .digit => digitInNumber cursor pending radix c
  | .capitalLetter | .smallLetter => letterInNumber cursor pending radix c
  | .demarcator =>
    if c = '.' then pointInNumber cursor pending radix
    else if c = '(' then openRepetend cursor pending radix
    else if c = ')' ∧ pending.category = .repetend then
      .next .undemarcated (pending.closeDelimited cursor)
    else leaveNumber cursor pending
  | .sign | .punctuation =>
    .again .demarcated
      (.gap .missingDemarcationFromNumber column ++ closeNumber cursor pending column)
  | _ => leaveNumber cursor pending

end LineLexer.Scan
