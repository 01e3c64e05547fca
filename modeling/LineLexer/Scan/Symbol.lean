import LineLexer.CharClass
import LineLexer.Scan.Output

/-!
# Scanning symbols

An unambiguous symbol is emitted at its first character. Any other symbol
character is held back for one character, and combined with the next one if the
two are a symbol together. A sign that is held back starts a name if a letter
follows it.
-/

namespace LineLexer.Scan

/-- Opens a symbol at the cursor. -/
def openSymbol (cursor : Cursor) (c : Char) : Step :=
  let column := cursor.position
  let pending := Mode.symbol (.opened .punctuation column)
  match Symbol.ofChar? c with
  | some s =>
    if s.unambiguous then .next (.after s) (.token (.ofSymbol s column (column + 1)))
    else .next pending .empty
  | none => .next pending .empty

/-- Emits the symbol held back, and the mode it leads to. -/
def closeSymbol (cursor : Cursor) (pending : Pending) (stop : Nat) : Output × Mode :=
  match Symbol.ofChars? (cursor.slice pending.start stop) with
  | some s => (.token (.ofSymbol s pending.start stop), .after s)
  | none =>
    (.fault .unknownPunctuation pending.start stop ++ pending.invalidated.close cursor stop,
      .demarcated)

/-- The category of a name that starts with a sign, by the sign and the class of its letter. -/
def signedName (sign : Char) (letter : CharClass) : Category :=
  if letter = .capitalLetter then .capitalizedName
  else if sign = '-' then .label
  else .uncapitalizedName

/-- Emits the symbol held back and leaves the current character to the next lexeme. -/
def leaveSymbol (cursor : Cursor) (pending : Pending) : Step :=
  let (output, mode) := closeSymbol cursor pending cursor.position
  .again mode output

/-- Gives the current character to the symbol held back, or emits it and starts anew. -/
def resumeSymbol (cursor : Cursor) (pending : Pending) (c : Char) : Step :=
  match cursor.charAt? pending.start with
  | none => .again .demarcated .empty
  | some first =>
    if (CharClass.of c).isSymbolic then
      match Symbol.ofChars? [first, c] with
      | some s => .next (.after s) (.token (.ofSymbol s pending.start (cursor.position + 1)))
      | none => leaveSymbol cursor pending
    else if (CharClass.of c).isLetterClass && CharClass.isSign first then
      .next (.word (pending.recast (signedName first (CharClass.of c)))) .empty
    else leaveSymbol cursor pending

end LineLexer.Scan
