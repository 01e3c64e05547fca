import LineLexer.CharClass
import LineLexer.Scan.Output

/-!
# Scanning words

A word consists of letters, digits and signs; a question mark ends it as a
predicate. Whether a finished word is a keyword is decided when it is emitted.
A single letter in front of a single quote is the mark of a quoted literal.
-/

namespace LineLexer.Scan

/-- Turns a word of one letter into the mark of a single-quoted literal. -/
def openMarked (cursor : Cursor) (pending : Pending) : Step :=
  let quoted (category : Category) (invalid : Bool) :=
    Mode.singleQuoted ⟨category, pending.start, 2, pending.invalid || invalid⟩
  let mark? := cursor.charAt? pending.start
  if mark?.any CharClass.isBinaryMark then .next (quoted .binary false) .empty
  else if mark?.any CharClass.isHexMark then .next (quoted .hex false) .empty
  else
    .next (quoted .rawString true)
      (.fault .unknownStringPrefix pending.start (pending.start + 1))

/-- Emits a word and leaves the current character to the next lexeme. -/
def leaveWord (cursor : Cursor) (pending : Pending) : Step :=
  .again .undemarcated (pending.close cursor cursor.position)

/-- Gives the current character to a word, or emits the word. -/
def resumeWord (cursor : Cursor) (pending : Pending) (c : Char) : Step :=
  let column := cursor.position
  match CharClass.of c with
  | .sign | .digit | .capitalLetter | .smallLetter => .next (.word pending) .empty
  | .demarcator =>
    if c = '?' then
      .next .undemarcated ((pending.recast .predicate).close cursor (column + 1))
    else leaveWord cursor pending
  | .punctuation | .other =>
    .next (.word pending.invalidated) (.fault .illegalCharacterInWord column (column + 1))
  | .singleQuote =>
    if pending.width column = 1 then openMarked cursor pending else leaveWord cursor pending
  | _ => leaveWord cursor pending

end LineLexer.Scan
