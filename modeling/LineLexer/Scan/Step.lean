import LineLexer.Scan.Literal
import LineLexer.Scan.Number
import LineLexer.Scan.Symbol
import LineLexer.Scan.Word
import LineLexer.Text.Blank

/-!
# Transitions of the scan

`step` is one transition at the current character, and `finish` closes what is
still open at the end of the line. A transition may leave the cursor in place to
hand the character to another mode, but never twice in a row: `step_in_place`
says that it then comes from inside a token and leads between two tokens.
-/

namespace LineLexer.Scan

/-- The text of documentation: without its leading hashes, and trimmed. -/
def documentationText (raw : List Char) : List Char :=
  Text.trim (raw.dropWhile (· = '#'))

/-- Emits the rest of the line as documentation. -/
def openDocumentation (cursor : Cursor) : Step :=
  let column := cursor.position
  let text := String.ofList (documentationText (cursor.slice column cursor.size))
  .skip .documentation (cursor.size - column)
    (.token (.tag .documentation (some text) column cursor.size false))

/-- Opens a token that needs a separation from a name or literal before it. -/
def openSeparated (cursor : Cursor) (separated : Bool) (category : Category)
    (issue : SyntaxIssue) (enter : Pending → Mode) : Step :=
  let pending := Pending.opened category cursor.position
  if separated then .next (enter pending) .empty
  else .next (enter pending.invalidated) (.gap issue cursor.position)

/-- Starts a lexeme at the cursor. -/
def openLexeme (cursor : Cursor) (separated : Bool) (c : Char) : Step :=
  let column := cursor.position
  match CharClass.of c with
  | .tab =>
    let issue := if column = 0 then SyntaxIssue.indentationWithTab else .illegalTab
    .next (.whitespace (Pending.opened .whitespace column).invalidated)
      (.fault issue column (column + 1))
  | .space => .next (.whitespace (.opened .whitespace column)) .empty
  | .hash => openDocumentation cursor
  | .digit =>
    openSeparated cursor separated .integer .missingDemarcationFromNumber (.number · .decimal)
  | .capitalLetter =>
    openSeparated cursor separated .capitalizedName .missingDemarcation .word
  | .smallLetter =>
    openSeparated cursor separated .uncapitalizedName .missingDemarcation .word
  | .doubleQuote =>
    openSeparated cursor separated .string .missingDemarcationFromString
      fun pending => .doubleQuoted (pending.skipping 1)
  | .singleQuote =>
    openSeparated cursor separated .rawString .missingDemarcationFromString
      fun pending => .singleQuoted (pending.skipping 1)
  | .sign | .demarcator | .punctuation => openSymbol cursor c
  | .other =>
    .next .demarcated
      (.fault .illegalCharacter column (column + 1) ++
        .token (.tag .punctuation (some (String.singleton c)) column (column + 1) true))

/-- Gives the current character to a run of whitespace, or emits the run. -/
def resumeWhitespace (cursor : Cursor) (pending : Pending) (c : Char) : Step :=
  let column := cursor.position
  match CharClass.of c with
  | .space => .next (.whitespace pending) .empty
  | .tab => .next (.whitespace pending.invalidated) (.fault .illegalTab column (column + 1))
  | _ => .again .demarcated (pending.close cursor column)

/-- One transition at the current character. -/
def step (mode : Mode) (cursor : Cursor) (c : Char) : Step :=
  match mode with
  | .demarcated => openLexeme cursor true c
  | .undemarcated => openLexeme cursor false c
  | .whitespace pending => resumeWhitespace cursor pending c
  | .symbol pending => resumeSymbol cursor pending c
  | .word pending => resumeWord cursor pending c
  | .number pending radix => resumeNumber cursor pending radix c
  | .doubleQuoted pending => resumeDoubleQuoted cursor pending c
  | .singleQuoted pending => resumeSingleQuoted cursor pending c
  | .documentation => .next .documentation .empty

/-- Closes what is still open at the end of the line. -/
def finish (mode : Mode) (cursor : Cursor) : Output :=
  match mode with
  | .demarcated | .undemarcated | .documentation => .empty
  | .symbol pending => (closeSymbol cursor pending cursor.size).1
  | .number pending _ => closeNumber cursor pending cursor.size
  | .whitespace pending | .word pending | .doubleQuoted pending | .singleQuoted pending =>
    pending.close cursor cursor.size

/-! ## Progress -/

/-- Leaving the cursor in place leads between two lexemes. -/
def Step.Settles (s : Step) : Prop :=
  s.advance = 0 → s.mode.isBetween = true

theorem Step.settles_next (mode : Mode) (output : Output) : (Step.next mode output).Settles :=
  fun h => absurd h (by simp [Step.next])

theorem Step.settles_again {mode : Mode} (output : Output) (h : mode.isBetween = true) :
    (Step.again mode output).Settles :=
  fun _ => h

/-- Between two lexemes, every transition consumes a character. -/
theorem advance_openLexeme_pos {cursor : Cursor} {c : Char} (separated : Bool)
    (h : cursor.current? = some c) : 0 < (openLexeme cursor separated c).advance := by
  have hpos : 0 < cursor.size - cursor.position := Cursor.remaining_pos_of_current? h
  unfold openLexeme
  split <;> simp only [openSeparated, openSymbol, openDocumentation, Step.next, Step.skip]
  all_goals (repeat' split) <;> first | exact hpos | exact Nat.one_pos

/-- The mode after the symbol held back is between two lexemes. -/
theorem isBetween_closeSymbol (cursor : Cursor) (pending : Pending) (stop : Nat) :
    (closeSymbol cursor pending stop).2.isBetween = true := by
  unfold closeSymbol
  split <;> simp only [Mode.after]
  · split <;> rfl
  · rfl

theorem settles_resumeWhitespace (cursor : Cursor) (pending : Pending) (c : Char) :
    (resumeWhitespace cursor pending c).Settles := by
  unfold resumeWhitespace
  split <;> first | exact Step.settles_next _ _ | exact Step.settles_again _ rfl

theorem settles_resumeSymbol (cursor : Cursor) (pending : Pending) (c : Char) :
    (resumeSymbol cursor pending c).Settles := by
  have hclose := isBetween_closeSymbol cursor pending cursor.position
  simp only [resumeSymbol, leaveSymbol]
  (repeat' split) <;>
    first | exact Step.settles_next _ _ | exact Step.settles_again _ rfl
          | exact Step.settles_again _ hclose

theorem settles_resumeWord (cursor : Cursor) (pending : Pending) (c : Char) :
    (resumeWord cursor pending c).Settles := by
  simp only [resumeWord, leaveWord, openMarked]
  (repeat' split) <;> first | exact Step.settles_next _ _ | exact Step.settles_again _ rfl

theorem settles_resumeNumber (cursor : Cursor) (pending : Pending) (radix : Radix) (c : Char) :
    (resumeNumber cursor pending radix c).Settles := by
  simp only [resumeNumber, digitInNumber, letterInNumber, illegalDigit, pointInNumber,
    openRepetend, leaveNumber]
  (repeat' split) <;> first | exact Step.settles_next _ _ | exact Step.settles_again _ rfl

/-- A transition that leaves the cursor in place comes from inside a token and leads between two
lexemes. -/
theorem step_in_place {mode : Mode} {cursor : Cursor} {c : Char}
    (h : cursor.current? = some c) (hstep : (step mode cursor c).advance = 0) :
    mode.isBetween = false ∧ (step mode cursor c).mode.isBetween = true := by
  cases mode with
  | demarcated => exact absurd hstep (Nat.ne_of_gt (advance_openLexeme_pos true h))
  | undemarcated => exact absurd hstep (Nat.ne_of_gt (advance_openLexeme_pos false h))
  | whitespace pending => exact ⟨rfl, settles_resumeWhitespace cursor pending c hstep⟩
  | symbol pending => exact ⟨rfl, settles_resumeSymbol cursor pending c hstep⟩
  | word pending => exact ⟨rfl, settles_resumeWord cursor pending c hstep⟩
  | number pending radix => exact ⟨rfl, settles_resumeNumber cursor pending radix c hstep⟩
  | doubleQuoted pending =>
    revert hstep
    simp only [step, resumeDoubleQuoted]
    split <;> exact fun hstep => absurd hstep Nat.one_ne_zero
  | singleQuoted pending =>
    revert hstep
    simp only [step, resumeSingleQuoted]
    (repeat' split) <;> exact fun hstep => absurd hstep (Nat.succ_ne_zero _)
  | documentation => exact absurd hstep Nat.one_ne_zero

end LineLexer.Scan
