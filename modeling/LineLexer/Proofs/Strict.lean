import LineLexer.Proofs.Invariant
import Mathlib.Data.Nat.PSub

/-!
# Branches that the scan does not take

Some branches of the scan are there for states that it does not reach: a slice is cut off at the
end of the line, a difference of columns stops at zero, a symbol that is held back may be missing
or unknown. Here the same transitions are written with operations that fail in those places
instead. In every state that is reached, they do what the scan does (`scan_strict`), so none of
these branches is taken.

* `Cursor.slice?`, `Pending.width?`, `gap?`: operations that fail where they have no meaning;
* `step?` and `finish?`: the scan, written with them;
* `Pending.Begun`: what the invariant says about the columns of a pending token.
-/

namespace LineLexer

/-- The characters of a run of columns that lies in the line. -/
def Cursor.slice? (cursor : Cursor) (start stop : Nat) : Option (List Char) :=
  if start ≤ stop ∧ stop ≤ cursor.size then some (cursor.slice start stop) else none

theorem Cursor.slice?_eq {cursor : Cursor} {start stop : Nat} (hstart : start ≤ stop)
    (hstop : stop ≤ cursor.size) : cursor.slice? start stop = some (cursor.slice start stop) :=
  if_pos ⟨hstart, hstop⟩

namespace Scan

/-! ## Operations that fail -/

/-- The width of a pending token that starts at the given column or before it. -/
def Pending.width? (pending : Pending) (column : Nat) : Option Nat :=
  column.psub pending.start

/-- A fault at the boundary between a column and the one before it, if there is one. -/
def gap? (issue : SyntaxIssue) (column : Nat) : Option Output :=
  if 0 < column then some (.gap issue column) else none

/-- The token of a pending one, if its lexeme lies in the line. -/
def Pending.token? (cursor : Cursor) (pending : Pending) (lexemeStop stop : Nat) : Option Token :=
  if pending.category = .whitespace then
    some (.tag .whitespace none pending.start stop pending.invalid)
  else do
    let lexeme ← cursor.slice? (pending.start + pending.offset) lexemeStop
    some (.tag pending.category (some (String.ofList lexeme)) pending.start stop pending.invalid)

/-- Emits a pending token whose lexeme reaches to the end of its span. -/
def Pending.close? (cursor : Cursor) (pending : Pending) (stop : Nat) : Option Output := do
  let t ← pending.token? cursor stop stop
  some (.token t)

/-- Emits a pending token that ends with a closing delimiter at the cursor. -/
def Pending.closeDelimited? (cursor : Cursor) (pending : Pending) : Option Output := do
  let t ← pending.token? cursor cursor.position (cursor.position + 1)
  some (.token t)

/-! ## Transitions

Each of these is the transition of the same name, and says only where it fails.
-/

/-- Emits the rest of the line as documentation, if the cursor is not behind its end. -/
def openDocumentation? (cursor : Cursor) : Option Step := do
  let column := cursor.position
  let raw ← cursor.slice? column cursor.size
  let width ← cursor.size.psub column
  some (.skip .documentation width
    (.token (.tag .documentation (some (String.ofList (documentationText raw))) column cursor.size
      false)))

def openSeparated? (cursor : Cursor) (separated : Bool) (category : Category)
    (issue : SyntaxIssue) (enter : Pending → Mode) : Option Step :=
  let pending := Pending.opened category cursor.position
  if separated then some (.next (enter pending) .empty)
  else do
    let output ← gap? issue cursor.position
    some (.next (enter pending.invalidated) output)

def openLexeme? (cursor : Cursor) (separated : Bool) (c : Char) : Option Step :=
  match CharClass.of c with
  | .hash => openDocumentation? cursor
  | .digit =>
    openSeparated? cursor separated .integer .missingDemarcationFromNumber (.number · .decimal)
  | .capitalLetter =>
    openSeparated? cursor separated .capitalizedName .missingDemarcation .word
  | .smallLetter =>
    openSeparated? cursor separated .uncapitalizedName .missingDemarcation .word
  | .doubleQuote =>
    openSeparated? cursor separated .string .missingDemarcationFromString
      fun pending => .doubleQuoted (pending.skipping 1)
  | .singleQuote =>
    openSeparated? cursor separated .rawString .missingDemarcationFromString
      fun pending => .singleQuoted (pending.skipping 1)
  | .tab | .space | .sign | .demarcator | .punctuation | .other =>
    some (openLexeme cursor separated c)

def resumeWhitespace? (cursor : Cursor) (pending : Pending) (c : Char) : Option Step :=
  match CharClass.of c with
  | .space | .tab => some (resumeWhitespace cursor pending c)
  | _ => do
    let output ← pending.close? cursor cursor.position
    some (.again .demarcated output)

/-- Emits the symbol held back, if it is one. -/
def closeSymbol? (cursor : Cursor) (pending : Pending) (stop : Nat) : Option (Output × Mode) := do
  let text ← cursor.slice? pending.start stop
  let s ← Symbol.ofChars? text
  some (.token (.ofSymbol s pending.start stop), .after s)

def leaveSymbol? (cursor : Cursor) (pending : Pending) : Option Step := do
  let (output, mode) ← closeSymbol? cursor pending cursor.position
  some (.again mode output)

/-- Gives the current character to the symbol held back, if there is one. -/
def resumeSymbol? (cursor : Cursor) (pending : Pending) (c : Char) : Option Step := do
  let first ← cursor.charAt? pending.start
  if (CharClass.of c).isSymbolic then
    match Symbol.ofChars? [first, c] with
    | some s => some (.next (.after s) (.token (.ofSymbol s pending.start (cursor.position + 1))))
    | none => leaveSymbol? cursor pending
  else if (CharClass.of c).isLetterClass && CharClass.isSign first then
    some (.next (.word (pending.recast (signedName first (CharClass.of c)))) .empty)
  else leaveSymbol? cursor pending

def leaveWord? (cursor : Cursor) (pending : Pending) : Option Step := do
  let output ← pending.close? cursor cursor.position
  some (.again .undemarcated output)

/-- Turns a word of one letter into the mark of a single-quoted literal, if there is a letter. -/
def openMarked? (cursor : Cursor) (pending : Pending) : Option Step := do
  let _mark ← cursor.charAt? pending.start
  some (openMarked cursor pending)

def resumeWord? (cursor : Cursor) (pending : Pending) (c : Char) : Option Step :=
  match CharClass.of c with
  | .demarcator =>
    if c = '?' then do
      let output ← (pending.recast .predicate).close? cursor (cursor.position + 1)
      some (.next .undemarcated output)
    else leaveWord? cursor pending
  | .singleQuote => do
    let width ← pending.width? cursor.position
    if width = 1 then openMarked? cursor pending else leaveWord? cursor pending
  | .sign | .digit | .capitalLetter | .smallLetter | .punctuation | .other =>
    some (resumeWord cursor pending c)
  | .tab | .space | .hash | .doubleQuote => leaveWord? cursor pending

def closeNumber? (cursor : Cursor) (pending : Pending) (stop : Nat) : Option Output :=
  if pending.category = .repetend then do
    let output ← pending.invalidated.close? cursor stop
    some (.fault .uncompletedRepetend pending.start stop ++ output)
  else pending.close? cursor stop

def leaveNumber? (cursor : Cursor) (pending : Pending) : Option Step := do
  let output ← closeNumber? cursor pending cursor.position
  some (.again .undemarcated output)

/-- An integer that so far is a single zero; the width is taken of every pending token. -/
def isLoneZero? (cursor : Cursor) (pending : Pending) : Option Bool := do
  let width ← pending.width? cursor.position
  some (pending.category == .integer && width == 1 && cursor.charAt? pending.start == some '0')

def letterInNumber? (cursor : Cursor) (pending : Pending) (radix : Radix) (c : Char) :
    Option Step := do
  let isLoneZero ← isLoneZero? cursor pending
  if isLoneZero && CharClass.isBinaryMark c then
    some (.next (.number ((pending.recast .binaryInteger).skipping 2) .binary) .empty)
  else if isLoneZero && CharClass.isHexMark c then
    some (.next (.number ((pending.recast .hexadecimalInteger).skipping 2) .hexadecimal) .empty)
  else if radix = .hexadecimal && CharClass.isHexDigit c then
    some (.next (.number pending radix) .empty)
  else some (illegalDigit cursor pending radix)

def pointInNumber? (cursor : Cursor) (pending : Pending) (radix : Radix) : Option Step :=
  let column := cursor.position
  let fraction := (Pending.opened .fraction column).skipping 1
  if pending.category.isInteger then do
    let output ← pending.close? cursor column
    some (.next (.number fraction radix) output)
  else do
    let width ← pending.width? column
    if pending.category = .fraction ∧ width = 1 then
      some (.next .demarcated (.token (.ofSymbol .ellipsis pending.start (column + 1))))
    else
      let output ← closeNumber? cursor pending column
      some (.next (.number fraction.invalidated radix)
        (output ++ .fault .invalidNumber pending.start (column + 1)))

def openRepetend? (cursor : Cursor) (pending : Pending) (radix : Radix) : Option Step :=
  let column := cursor.position
  let repetend := (Pending.opened .repetend column).skipping 1
  match pending.category with
  | .repetend => leaveNumber? cursor pending
  | .fraction => do
    let output ← pending.close? cursor column
    some (.next (.number repetend radix) output)
  | _ => do
    let output ← pending.close? cursor column
    some (.next (.number repetend.invalidated radix)
      (output ++ .fault .missingDecimalPoint pending.start (column + 1)))

def resumeNumber? (cursor : Cursor) (pending : Pending) (radix : Radix) (c : Char) :
    Option Step :=
  let column := cursor.position
  match CharClass.of c with
  | .digit => some (digitInNumber cursor pending radix c)
  | .capitalLetter | .smallLetter => letterInNumber? cursor pending radix c
  | .demarcator =>
    if c = '.' then pointInNumber? cursor pending radix
    else if c = '(' then openRepetend? cursor pending radix
    else if c = ')' ∧ pending.category = .repetend then do
      let output ← pending.closeDelimited? cursor
      some (.next .undemarcated output)
    else leaveNumber? cursor pending
  | .sign | .punctuation => do
    let missing ← gap? .missingDemarcationFromNumber column
    let output ← closeNumber? cursor pending column
    some (.again .demarcated (missing ++ output))
  | _ => leaveNumber? cursor pending

def resumeDoubleQuoted? (cursor : Cursor) (pending : Pending) (c : Char) : Option Step :=
  if c = '"' ∧ cursor.previous? ≠ some '\\' then do
    let output ← pending.closeDelimited? cursor
    some (.next .undemarcated output)
  else some (.next (.doubleQuoted pending) .empty)

def resumeSingleQuoted? (cursor : Cursor) (pending : Pending) (c : Char) : Option Step :=
  if c ≠ '\'' then some (.next (.singleQuoted pending) .empty)
  else if cursor.peek? 1 = some '\'' then some (.skip (.singleQuoted pending) 2 .empty)
  else do
    let output ← pending.closeDelimited? cursor
    some (.next .undemarcated output)

/-- One transition at the current character; documentation has none, as it ends the line. -/
def step? (mode : Mode) (cursor : Cursor) (c : Char) : Option Step :=
  match mode with
  | .demarcated => openLexeme? cursor true c
  | .undemarcated => openLexeme? cursor false c
  | .whitespace pending => resumeWhitespace? cursor pending c
  | .symbol pending => resumeSymbol? cursor pending c
  | .word pending => resumeWord? cursor pending c
  | .number pending radix => resumeNumber? cursor pending radix c
  | .doubleQuoted pending => resumeDoubleQuoted? cursor pending c
  | .singleQuoted pending => resumeSingleQuoted? cursor pending c
  | .documentation => none

/-- Closes what is still open at the end of the line. -/
def finish? (mode : Mode) (cursor : Cursor) : Option Output :=
  match mode with
  | .demarcated | .undemarcated | .documentation => some .empty
  | .symbol pending => (closeSymbol? cursor pending cursor.size).map (·.1)
  | .number pending _ => closeNumber? cursor pending cursor.size
  | .whitespace pending | .word pending | .doubleQuoted pending | .singleQuoted pending =>
    pending.close? cursor cursor.size

/-! ## Columns of pending tokens -/

/-- A pending token starts before the cursor, and its lexeme no later than there. -/
structure Pending.Begun (pending : Pending) (cursor : Cursor) : Prop where
  start_lt : pending.start < cursor.position
  lexeme_le : pending.category ≠ .whitespace → pending.start + pending.offset ≤ cursor.position

theorem Mode.Describes.begun {mode : Mode} {cursor : Cursor} {p : Pending}
    (h : mode.Describes cursor) (hp : mode.pending? = some p) : p.Begun cursor := by
  have hstart := h.start_lt hp
  refine ⟨hstart, fun hcat => ?_⟩
  have hoffset := h.offset_le_length hp hcat
  rw [p.length_text] at hoffset
  omega

/-! ## Agreement

Where the invariant holds, none of the operations fails: the invariant bounds the columns of a
pending token, and knows the symbol that is held back.
-/

section
variable {cursor : Cursor} {p : Pending} {c : Char}

theorem Pending.Begun.invalidated (h : p.Begun cursor) : p.invalidated.Begun cursor :=
  ⟨h.start_lt, h.lexeme_le⟩

theorem gap?_eq (issue : SyntaxIssue) {column : Nat} (h : 0 < column) :
    gap? issue column = some (.gap issue column) :=
  if_pos h

theorem Pending.Begun.width?_eq (h : p.Begun cursor) :
    p.width? cursor.position = some (p.width cursor.position) :=
  Nat.psub_eq_sub (Nat.le_of_lt h.start_lt)

theorem Pending.Begun.token?_eq (h : p.Begun cursor) {lexemeStop : Nat} (stop : Nat)
    (hstart : cursor.position ≤ lexemeStop) (hstop : lexemeStop ≤ cursor.size) :
    p.token? cursor lexemeStop stop = some (p.token cursor lexemeStop stop) := by
  unfold token? token
  split
  · rfl
  · next hcat =>
    rw [Cursor.slice?_eq (Nat.le_trans (h.lexeme_le hcat) hstart) hstop]
    rfl

theorem Pending.Begun.close?_eq (h : p.Begun cursor) {stop : Nat} (hstart : cursor.position ≤ stop)
    (hstop : stop ≤ cursor.size) : p.close? cursor stop = some (p.close cursor stop) := by
  rw [close?, h.token?_eq stop hstart hstop]
  rfl

theorem Pending.Begun.closeDelimited?_eq (h : p.Begun cursor) :
    p.closeDelimited? cursor = some (p.closeDelimited cursor) := by
  rw [closeDelimited?, h.token?_eq _ (Nat.le_refl _) cursor.position_le_size]
  rfl

theorem openDocumentation?_eq : openDocumentation? cursor = some (openDocumentation cursor) := by
  have hle := cursor.position_le_size
  simp only [openDocumentation?, Cursor.slice?_eq hle (Nat.le_refl _), Nat.psub_eq_sub hle]
  rfl

theorem openSeparated?_eq {separated : Bool} (h : separated = false → 0 < cursor.position)
    (category : Category) (issue : SyntaxIssue) (enter : Pending → Mode) :
    openSeparated? cursor separated category issue enter =
      some (openSeparated cursor separated category issue enter) := by
  cases separated with
  | true => rfl
  | false =>
    simp only [openSeparated?, gap?_eq issue (h rfl)]
    rfl

theorem openLexeme?_eq {separated : Bool} (h : separated = false → 0 < cursor.position) (c : Char) :
    openLexeme? cursor separated c = some (openLexeme cursor separated c) := by
  unfold openLexeme? openLexeme
  cases CharClass.of c <;> simp only [openSeparated?_eq h, openDocumentation?_eq]

theorem resumeWhitespace?_eq (h : p.Begun cursor) (c : Char) :
    resumeWhitespace? cursor p c = some (resumeWhitespace cursor p c) := by
  have hclose := h.close?_eq (Nat.le_refl _) cursor.position_le_size
  unfold resumeWhitespace? resumeWhitespace
  cases CharClass.of c <;> first | rfl | (simp only [hclose]; rfl)

theorem closeSymbol?_eq (h : (Mode.symbol p).Describes cursor) :
    closeSymbol? cursor p cursor.position = some (closeSymbol cursor p cursor.position) := by
  obtain ⟨first, s, -, htext, hs, -⟩ := h.exists_held
  have hslice : cursor.slice? p.start cursor.position = some [first] := by
    rw [Cursor.slice?_eq (Nat.le_of_lt (h.start_lt rfl)) cursor.position_le_size, ← htext]
    rfl
  have hs' : Symbol.ofChars? [first] = some s := hs
  rw [closeSymbol_eq htext hs]
  simp only [closeSymbol?, hslice, hs', Option.bind_some, bind]

theorem leaveSymbol?_eq (h : (Mode.symbol p).Describes cursor) :
    leaveSymbol? cursor p = some (leaveSymbol cursor p) := by
  rw [leaveSymbol?, closeSymbol?_eq h]
  rfl

theorem resumeSymbol?_eq (h : (Mode.symbol p).Describes cursor) (c : Char) :
    resumeSymbol? cursor p c = some (resumeSymbol cursor p c) := by
  obtain ⟨first, s, hfirst, -, -, -⟩ := h.exists_held
  simp only [resumeSymbol?, resumeSymbol, hfirst, leaveSymbol?_eq h, Option.bind_some, bind]
  by_cases hsymbolic : (CharClass.of c).isSymbolic = true
  · rw [if_pos hsymbolic, if_pos hsymbolic]
    cases Symbol.ofChars? [first, c] <;> rfl
  · rw [if_neg hsymbolic, if_neg hsymbolic]
    split <;> rfl

theorem leaveWord?_eq (h : p.Begun cursor) : leaveWord? cursor p = some (leaveWord cursor p) := by
  rw [leaveWord?, h.close?_eq (Nat.le_refl _) cursor.position_le_size]
  rfl

theorem openMarked?_eq (h : p.Begun cursor) :
    openMarked? cursor p = some (openMarked cursor p) := by
  obtain ⟨mark, hmark⟩ :=
    Cursor.exists_charAt? (Nat.lt_of_lt_of_le h.start_lt cursor.position_le_size)
  rw [openMarked?, hmark]
  rfl

theorem resumeWord?_eq (h : p.Begun cursor) (hname : p.category.isName = true)
    (hc : cursor.current? = some c) : resumeWord? cursor p c = some (resumeWord cursor p c) := by
  have hpredicate : (p.recast .predicate).Begun cursor := by
    refine ⟨h.start_lt, fun _ => h.lexeme_le fun hcat => ?_⟩
    rw [hcat] at hname
    exact Bool.false_ne_true hname
  have hclose := hpredicate.close?_eq (Nat.le_succ _) (Cursor.position_lt_of_current? hc)
  unfold resumeWord? resumeWord
  cases CharClass.of c <;>
    simp only [leaveWord?_eq h, openMarked?_eq h, h.width?_eq, hclose, Option.bind_some, bind]
  all_goals split <;> rfl

theorem closeNumber?_eq (h : p.Begun cursor) {stop : Nat} (hstart : cursor.position ≤ stop)
    (hstop : stop ≤ cursor.size) :
    closeNumber? cursor p stop = some (closeNumber cursor p stop) := by
  simp only [closeNumber?, closeNumber, h.close?_eq hstart hstop,
    h.invalidated.close?_eq hstart hstop]
  split <;> rfl

theorem leaveNumber?_eq (h : p.Begun cursor) :
    leaveNumber? cursor p = some (leaveNumber cursor p) := by
  rw [leaveNumber?, closeNumber?_eq h (Nat.le_refl _) cursor.position_le_size]
  rfl

theorem letterInNumber?_eq (h : p.Begun cursor) (radix : Radix) (c : Char) :
    letterInNumber? cursor p radix c = some (letterInNumber cursor p radix c) := by
  have hzero : isLoneZero? cursor p = some (isLoneZero cursor p) := by
    rw [isLoneZero?, h.width?_eq]
    rfl
  simp only [letterInNumber?, letterInNumber, hzero, Option.bind_some, bind]
  (repeat' split) <;> rfl

theorem pointInNumber?_eq (h : p.Begun cursor) (radix : Radix) :
    pointInNumber? cursor p radix = some (pointInNumber cursor p radix) := by
  have hend := cursor.position_le_size
  simp only [pointInNumber?, pointInNumber, h.close?_eq (Nat.le_refl _) hend, h.width?_eq,
    closeNumber?_eq h (Nat.le_refl _) hend, Option.bind_some, bind]
  (repeat' split) <;> rfl

theorem openRepetend?_eq (h : p.Begun cursor) (radix : Radix) :
    openRepetend? cursor p radix = some (openRepetend cursor p radix) := by
  have hclose := h.close?_eq (Nat.le_refl _) cursor.position_le_size
  unfold openRepetend? openRepetend
  cases p.category <;> simp only [leaveNumber?_eq h, hclose, Option.bind_some, bind]

theorem resumeNumber?_eq (h : p.Begun cursor) (radix : Radix) (c : Char) :
    resumeNumber? cursor p radix c = some (resumeNumber cursor p radix c) := by
  have hgap := gap?_eq .missingDemarcationFromNumber (Nat.zero_lt_of_lt h.start_lt)
  have hclose := closeNumber?_eq h (Nat.le_refl _) cursor.position_le_size
  unfold resumeNumber? resumeNumber
  cases CharClass.of c <;>
    simp only [letterInNumber?_eq h, pointInNumber?_eq h, openRepetend?_eq h, leaveNumber?_eq h,
      h.closeDelimited?_eq, hgap, hclose, Option.bind_some, bind]
  (repeat' split) <;> rfl

theorem resumeDoubleQuoted?_eq (h : p.Begun cursor) (c : Char) :
    resumeDoubleQuoted? cursor p c = some (resumeDoubleQuoted cursor p c) := by
  simp only [resumeDoubleQuoted?, resumeDoubleQuoted, h.closeDelimited?_eq, Option.bind_some, bind]
  split <;> rfl

theorem resumeSingleQuoted?_eq (h : p.Begun cursor) (c : Char) :
    resumeSingleQuoted? cursor p c = some (resumeSingleQuoted cursor p c) := by
  simp only [resumeSingleQuoted?, resumeSingleQuoted, h.closeDelimited?_eq, Option.bind_some, bind]
  (repeat' split) <;> rfl

/-- No operation of a transition fails. -/
theorem step?_eq {mode : Mode} (h : mode.Describes cursor) (hc : cursor.current? = some c) :
    step? mode cursor c = some (step mode cursor c) := by
  cases mode with
  | demarcated => exact openLexeme?_eq (fun hfalse => Bool.noConfusion hfalse) c
  | undemarcated => exact openLexeme?_eq (fun _ => h) c
  | whitespace p => exact resumeWhitespace?_eq (h.begun rfl) c
  | symbol p => exact resumeSymbol?_eq h c
  | word p => exact resumeWord?_eq (h.begun rfl) (WordText.category h) hc
  | number p radix => exact resumeNumber?_eq (h.begun rfl) radix c
  | doubleQuoted p => exact resumeDoubleQuoted?_eq (h.begun rfl) c
  | singleQuoted p => exact resumeSingleQuoted?_eq (h.begun rfl) c
  | documentation => exact absurd rfl (h.ne_documentation hc)

/-- No operation at the end of the line fails. -/
theorem finish?_eq {mode : Mode} (h : mode.Describes cursor)
    (hend : cursor.position = cursor.size) : finish? mode cursor = some (finish mode cursor) := by
  have hle := Nat.le_of_eq hend
  cases mode with
  | demarcated | undemarcated | documentation => rfl
  | symbol p =>
    have hclose := closeSymbol?_eq h
    rw [hend] at hclose
    simp only [finish?, finish, hclose, Option.map_some]
  | number p radix => exact closeNumber?_eq (h.begun rfl) hle (Nat.le_refl _)
  | whitespace p | word p | doubleQuoted p | singleQuoted p =>
    exact (h.begun rfl).close?_eq hle (Nat.le_refl _)

end

/-- The scan of a line never comes to a branch that is there for states it does not reach. A symbol
that is held back is one character without a mark, known but not yet certain. No transition is made
from documentation, and neither a transition nor the end of the line has a negative width, a slice
that is not in the line, a boundary before the first column, or a symbol that is missing or
unknown. -/
theorem scan_strict (code : List Char) :
    (∀ p cursor output, Reaches code (.symbol p) cursor output →
      cursor.position = p.start + 1 ∧ p.invalid = false ∧
        ∃ first s, cursor.charAt? p.start = some first ∧ Symbol.ofChar? first = some s ∧
          s.unambiguous = false) ∧
    (∀ mode cursor output c, Reaches code mode cursor output → cursor.current? = some c →
      mode ≠ .documentation ∧ step? mode cursor c = some (step mode cursor c)) ∧
    (∀ mode cursor output, Reaches code mode cursor output → cursor.current? = none →
      finish? mode cursor = some (finish mode cursor)) := by
  refine ⟨?_, ?_, ?_⟩
  · intro p cursor output h
    obtain ⟨first, s, hfirst, htext, hs, hambiguous⟩ := h.describes.exists_held
    have hlength := p.length_text cursor
    rw [htext, List.length_singleton] at hlength
    exact ⟨by omega, HeldText.invalid_eq_false h.describes, first, s, hfirst, hs, hambiguous⟩
  · intro mode cursor output c h hc
    exact ⟨h.describes.ne_documentation hc, step?_eq h.describes hc⟩
  · intro mode cursor output h hend
    exact finish?_eq h.describes (Cursor.position_eq_of_current?_eq_none hend)

end Scan

end LineLexer
