import LineLexer.Token

/-!
# Modes of the scan

What the scan of a line knows between two characters: whether the next lexeme
needs a separation from the previous one, or which token is under construction.
-/

namespace LineLexer.Scan

/-- The digit base of a number literal, carried from its integer into fraction and repetend. -/
inductive Radix where
  | decimal
  | binary
  | hexadecimal
deriving DecidableEq, Repr

/-- A token that has been opened and not yet emitted. -/
structure Pending where
  /-- Proposed category. -/
  category : Category
  /-- First column. -/
  start : Nat
  /-- Leading characters of the span that are not part of the lexeme. -/
  offset : Nat
  /-- A fault was found in the token. -/
  invalid : Bool
deriving DecidableEq, Repr

namespace Pending

/-- A token opened at a column, so far without a fault. -/
def opened (category : Category) (start : Nat) : Pending :=
  ⟨category, start, 0, false⟩

/-- The same token with a number of leading characters that the lexeme leaves out. -/
def skipping (pending : Pending) (offset : Nat) : Pending :=
  { pending with offset }

/-- The same token under another category. -/
def recast (pending : Pending) (category : Category) : Pending :=
  { pending with category }

/-- The same token, marked as faulty. -/
def invalidated (pending : Pending) : Pending :=
  { pending with invalid := true }

/-- Characters consumed so far, given the column of the next one. -/
def width (pending : Pending) (column : Nat) : Nat :=
  column - pending.start

end Pending

/-- The state of the scan between two characters. -/
inductive Mode where
  /-- At the start of the line, or after a lexeme that needs no separation from the next. -/
  | demarcated
  /-- After a lexeme that needs a separation from names and literals. -/
  | undemarcated
  /-- In a run of spaces and tabs. -/
  | whitespace (pending : Pending)
  /-- After one symbol character that may start a longer symbol or a signed name. -/
  | symbol (pending : Pending)
  /-- In a name or keyword. -/
  | word (pending : Pending)
  /-- In a part of a number literal. -/
  | number (pending : Pending) (radix : Radix)
  /-- Between double quotes. -/
  | doubleQuoted (pending : Pending)
  /-- Between single quotes. -/
  | singleQuoted (pending : Pending)
  /-- In documentation, which lasts to the end of the line. -/
  | documentation
deriving DecidableEq, Repr

namespace Mode

/-- The token under construction. -/
def pending? : Mode → Option Pending
  | whitespace p | symbol p | word p | number p _ | doubleQuoted p | singleQuoted p => some p
  | demarcated | undemarcated | documentation => none

/-- Between two lexemes. -/
def isBetween : Mode → Bool
  | demarcated | undemarcated => true
  | _ => false

/-- Inside a quoted literal. -/
def isQuoted : Mode → Bool
  | doubleQuoted _ | singleQuoted _ => true
  | _ => false

/-- The mode after a symbol. -/
def after (s : Symbol) : Mode :=
  if s.demarcating then demarcated else undemarcated

end Mode

end LineLexer.Scan
