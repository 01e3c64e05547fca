import LineLexer.Cursor
import LineLexer.Diagnostic.Basic
import LineLexer.Scan.Mode

/-!
# Output of the scan

The scan of a line yields tokens and faults, each in the order of the text. A
fault knows its columns only; the line adds its number and level when it turns
the fault into a diagnostic. A `Step` is what one transition does.
-/

namespace LineLexer.Scan

/-- The columns that a fault points at. -/
inductive Place where
  /-- A run of columns. -/
  | span (start stop : Nat)
  /-- The boundary between a column and the one before it. -/
  | gap (column : Nat)
deriving DecidableEq, Repr

/-- The place within a line: a boundary points at the characters on both sides of it. -/
def Place.locations (line level : Nat) : Place → Locations
  | span start stop => .single ⟨line, level, start, stop⟩
  | gap column => .pair ⟨line, level, column - 1, column⟩ ⟨line, level, column, column + 1⟩

/-- A lexical issue and where it was found. -/
structure Fault where
  /-- What is wrong. -/
  issue : SyntaxIssue
  /-- Where it is wrong. -/
  place : Place
deriving DecidableEq, Repr

/-- The diagnostic of a fault in a line. -/
def Fault.diagnostic (line level : Nat) (fault : Fault) : Diagnostic :=
  .ofIssue fault.issue (fault.place.locations line level)

/-- Tokens and faults in the order of the text. -/
structure Output where
  /-- Emitted tokens. -/
  tokens : List Token
  /-- Reported faults. -/
  faults : List Fault
deriving DecidableEq, Repr

namespace Output

/-- Nothing emitted and nothing reported. -/
def empty : Output := ⟨[], []⟩

/-- One token. -/
def token (t : Token) : Output := ⟨[t], []⟩

/-- One fault over a run of columns. -/
def fault (issue : SyntaxIssue) (start stop : Nat) : Output :=
  ⟨[], [⟨issue, .span start stop⟩]⟩

/-- One fault at the boundary before a column. -/
def gap (issue : SyntaxIssue) (column : Nat) : Output :=
  ⟨[], [⟨issue, .gap column⟩]⟩

instance : Append Output where
  append a b := ⟨a.tokens ++ b.tokens, a.faults ++ b.faults⟩

@[simp]
theorem tokens_append (a b : Output) : (a ++ b).tokens = a.tokens ++ b.tokens := rfl

@[simp]
theorem faults_append (a b : Output) : (a ++ b).faults = a.faults ++ b.faults := rfl

@[simp]
theorem empty_append (a : Output) : empty ++ a = a := rfl

@[simp]
theorem append_empty (a : Output) : a ++ empty = a := by
  show (⟨a.tokens ++ [], a.faults ++ []⟩ : Output) = a
  simp

theorem append_assoc (a b c : Output) : a ++ b ++ c = a ++ (b ++ c) := by
  show (⟨_, _⟩ : Output) = ⟨_, _⟩
  simp

end Output

/-- What one transition does: what it yields, the next mode, and how far the cursor moves. -/
structure Step where
  /-- Tokens and faults of the transition. -/
  output : Output
  /-- The next mode. -/
  mode : Mode
  /-- Characters consumed. -/
  advance : Nat
deriving DecidableEq, Repr

namespace Step

/-- Consumes the current character. -/
def next (mode : Mode) (output : Output) : Step :=
  ⟨output, mode, 1⟩

/-- Leaves the current character to another mode. -/
def again (mode : Mode) (output : Output) : Step :=
  ⟨output, mode, 0⟩

/-- Consumes several characters. -/
def skip (mode : Mode) (advance : Nat) (output : Output) : Step :=
  ⟨output, mode, advance⟩

end Step

/-- The token that a pending one becomes, with the end of its lexeme and the end of its span. -/
def Pending.token (cursor : Cursor) (pending : Pending) (lexemeStop stop : Nat) : Token :=
  if pending.category = .whitespace then
    .tag .whitespace none pending.start stop pending.invalid
  else
    let lexeme := cursor.slice (pending.start + pending.offset) lexemeStop
    .tag pending.category (some (String.ofList lexeme)) pending.start stop pending.invalid

/-- Emits a pending token whose lexeme reaches to the end of its span. -/
def Pending.close (cursor : Cursor) (pending : Pending) (stop : Nat) : Output :=
  .token (pending.token cursor stop stop)

/-- Emits a pending token that ends with a closing delimiter at the cursor. -/
def Pending.closeDelimited (cursor : Cursor) (pending : Pending) : Output :=
  .token (pending.token cursor cursor.position (cursor.position + 1))

end LineLexer.Scan
