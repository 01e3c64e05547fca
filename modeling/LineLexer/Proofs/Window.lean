import LineLexer.Line
import LineLexer.Proofs.Invariant

/-!
# A line as a window on another line

A transition looks at the characters of the token under construction, at the current one and
at one neighbour on either side. So a line that reappears further right in a longer line is
scanned there as it is scanned alone, with every column moved by the same distance: this is
`step_shift` for one transition and `rest_shift` for a run.

Three things would tell the two apart, and `Window` and the hypotheses rule them out: a quote
behind the window that doubles one at its end, a tab that opens the line in one of
them only, and documentation, which takes the rest of the line it is in.

* `Token.shift`, `Mode.shift`, `Output.shift` and so on: moving by a number of columns;
* `Window`: one line inside another;
* `rest`: what is put out from a state on.
-/

namespace LineLexer

/-! ## Moving by a number of columns -/

/-- A token further right. -/
def Token.shift (d : Nat) (t : Token) : Token :=
  { t with start := t.start + d, stop := t.stop + d }

/-- A location further right. -/
def Location.shift (d : Nat) (location : Location) : Location :=
  { location with start := location.start + d, stop := location.stop + d }

/-- Locations further right. -/
def Locations.shift (d : Nat) : Locations → Locations
  | .none => .none
  | .single location => .single (location.shift d)
  | .pair first second => .pair (first.shift d) (second.shift d)

/-- A diagnostic whose locations are further right. -/
def Diagnostic.shift (d : Nat) (diagnostic : Diagnostic) : Diagnostic :=
  { diagnostic with locations := diagnostic.locations.shift d }

theorem Token.tag_shift (category : Category) (text? : Option String) (start stop d : Nat)
    (invalid : Bool) :
    Token.tag category text? (start + d) (stop + d) invalid =
      (Token.tag category text? start stop invalid).shift d := by
  cases text? <;> rfl

namespace Scan

/-- A pending token further right. -/
def Pending.shift (d : Nat) (p : Pending) : Pending :=
  { p with start := p.start + d }

/-- A mode whose pending token is further right. -/
def Mode.shift (d : Nat) : Mode → Mode
  | .demarcated => .demarcated
  | .undemarcated => .undemarcated
  | .whitespace p => .whitespace (p.shift d)
  | .symbol p => .symbol (p.shift d)
  | .word p => .word (p.shift d)
  | .number p radix => .number (p.shift d) radix
  | .doubleQuoted p => .doubleQuoted (p.shift d)
  | .singleQuoted p => .singleQuoted (p.shift d)
  | .documentation => .documentation

/-- A place further right. -/
def Place.shift (d : Nat) : Place → Place
  | .span start stop => .span (start + d) (stop + d)
  | .gap column => .gap (column + d)

/-- A fault further right. -/
def Fault.shift (d : Nat) (fault : Fault) : Fault :=
  { fault with place := fault.place.shift d }

/-- Output further right. -/
def Output.shift (d : Nat) (output : Output) : Output :=
  ⟨output.tokens.map (·.shift d), output.faults.map (·.shift d)⟩

/-- A transition further right. -/
def Step.shift (d : Nat) (s : Step) : Step :=
  ⟨s.output.shift d, s.mode.shift d, s.advance⟩

@[simp] theorem Pending.category_shift (d : Nat) (p : Pending) :
    (p.shift d).category = p.category := rfl

@[simp] theorem Pending.start_shift (d : Nat) (p : Pending) : (p.shift d).start = p.start + d := rfl

@[simp] theorem Pending.offset_shift (d : Nat) (p : Pending) : (p.shift d).offset = p.offset := rfl

@[simp] theorem Pending.invalid_shift (d : Nat) (p : Pending) :
    (p.shift d).invalid = p.invalid := rfl

@[simp] theorem Pending.invalidated_shift (d : Nat) (p : Pending) :
    (p.shift d).invalidated = p.invalidated.shift d := rfl

@[simp] theorem Pending.recast_shift (d : Nat) (p : Pending) (category : Category) :
    (p.shift d).recast category = (p.recast category).shift d := rfl

@[simp] theorem Pending.skipping_shift (d : Nat) (p : Pending) (offset : Nat) :
    (p.shift d).skipping offset = (p.skipping offset).shift d := rfl

@[simp] theorem Pending.opened_shift (d : Nat) (category : Category) (start : Nat) :
    Pending.opened category (start + d) = (Pending.opened category start).shift d := rfl

@[simp] theorem Pending.width_shift (d : Nat) (p : Pending) (column : Nat) :
    (p.shift d).width (column + d) = p.width column :=
  Nat.add_sub_add_right column d p.start

theorem Output.shift_append (d : Nat) (a b : Output) :
    (a ++ b).shift d = a.shift d ++ b.shift d := by
  show (⟨_, _⟩ : Output) = ⟨_, _⟩
  rw [tokens_append, faults_append, List.map_append, List.map_append]
  rfl

theorem Mode.shift_after (d : Nat) (s : Symbol) : (Mode.after s).shift d = .after s := by
  unfold after
  split <;> rfl

/-- Behind a symbol, only the output has columns. -/
theorem Step.shift_next_after (d : Nat) (s : Symbol) (output : Output) :
    (Step.next (.after s) output).shift d = .next (.after s) (output.shift d) := by
  rw [Step.shift, Step.next, Mode.shift_after]
  rfl

theorem Mode.shift_zero (mode : Mode) : mode.shift 0 = mode := by
  cases mode <;> rfl

theorem Place.shift_zero (place : Place) : place.shift 0 = place := by
  cases place <;> rfl

theorem Output.shift_zero (output : Output) : output.shift 0 = output := by
  have htokens : output.tokens.map (·.shift 0) = output.tokens := List.map_id' _
  have hfaults : output.faults.map (·.shift 0) = output.faults := by
    refine List.map_id'' (fun fault => ?_) _
    rw [Fault.shift, Place.shift_zero]
  rw [shift, htokens, hfaults]

/-! ## Windows -/

/-- The line of one cursor inside that of another, at a distance from its start; both cursors stand
at the same character. -/
structure Window (d : Nat) (inner outer : Cursor) : Prop where
  position_eq : outer.position = inner.position + d
  size_le : inner.size + d ≤ outer.size
  charAt?_eq : ∀ i < inner.size, outer.charAt? (i + d) = inner.charAt? i
  /-- No quote follows the window, so none at its end is doubled. -/
  follower : outer.charAt? (inner.size + d) ≠ some '\''
  /-- No tab opens the inner line only. -/
  opener : d = 0 ∨ inner.charAt? 0 ≠ some '\t'

namespace Window

variable {d : Nat} {inner outer : Cursor} {c : Char}

theorem current? (w : Window d inner outer) (hc : inner.current? = some c) :
    outer.current? = some c := by
  rw [Cursor.current?, w.position_eq, w.charAt?_eq _ (Cursor.position_lt_of_current? hc)]
  exact hc

/-- The character before the cursor is the same, if the inner line has one. -/
theorem previous? (w : Window d inner outer) (hpos : 0 < inner.position) :
    outer.previous? = inner.previous? := by
  have hle := inner.position_le_size
  have heq := w.position_eq
  have hprev : outer.position - 1 = inner.position - 1 + d := by omega
  rw [Cursor.previous?, Cursor.previous?, if_neg (by omega), if_neg (by omega), hprev,
    w.charAt?_eq _ (by omega)]

/-- A quote follows the current character in both lines or in none. -/
theorem peek?_eq_quote_iff (w : Window d inner outer) (hlt : inner.position < inner.size) :
    outer.peek? 1 = some '\'' ↔ inner.peek? 1 = some '\'' := by
  have hnext : outer.position + 1 = inner.position + 1 + d := by
    rw [w.position_eq]
    omega
  rw [Cursor.peek?, Cursor.peek?, hnext]
  by_cases hend : inner.position + 1 < inner.size
  · rw [w.charAt?_eq _ hend]
  · have hsize : inner.position + 1 = inner.size := by omega
    have hnone : inner.charAt? inner.size = none := Array.getElem?_eq_none (Nat.le_refl _)
    rw [hsize, hnone]
    exact iff_of_false w.follower (by simp)

theorem slice (w : Window d inner outer) {start stop : Nat} (h : stop ≤ inner.size) :
    outer.slice (start + d) (stop + d) = inner.slice start stop := by
  have hle := w.size_le
  refine List.ext_getElem? fun i => ?_
  by_cases hi : start + i < stop
  · rw [Cursor.getElem?_slice (by omega), Cursor.getElem?_slice hi,
      show start + d + i = start + i + d by omega, w.charAt?_eq _ (by omega)]
  · rw [List.getElem?_eq_none, List.getElem?_eq_none]
    · rw [Cursor.length_slice h]
      omega
    · rw [Cursor.length_slice (by omega)]
      omega

/-- Both cursors move on together. -/
theorem advance (w : Window d inner outer) {n : Nat} (h : inner.position + n ≤ inner.size) :
    Window d (inner.advance n) (outer.advance n) := by
  have hpos := w.position_eq
  have hle := w.size_le
  refine ⟨?_, hle, w.charAt?_eq, w.follower, w.opener⟩
  rw [Cursor.position_advance h, Cursor.position_advance (by omega)]
  omega

end Window

/-! ## Closing tokens -/

section
variable {d : Nat} {inner outer : Cursor} {c : Char} {p : Pending}

theorem Pending.token_shift (w : Window d inner outer) (p : Pending) {lexemeStop : Nat}
    (h : lexemeStop ≤ inner.size) (stop : Nat) :
    (p.shift d).token outer (lexemeStop + d) (stop + d) =
      (p.token inner lexemeStop stop).shift d := by
  have hslice : outer.slice (p.start + d + p.offset) (lexemeStop + d) =
      inner.slice (p.start + p.offset) lexemeStop := by
    rw [Nat.add_right_comm, w.slice h]
  unfold Pending.token
  simp only [category_shift, start_shift, offset_shift, invalid_shift, hslice, Token.tag_shift]
  split <;> rfl

theorem Pending.close_shift (w : Window d inner outer) (p : Pending) {stop : Nat}
    (h : stop ≤ inner.size) :
    (p.shift d).close outer (stop + d) = (p.close inner stop).shift d := by
  rw [Pending.close, Pending.token_shift w p h]
  rfl

theorem Pending.closeDelimited_shift (w : Window d inner outer) (p : Pending) :
    (p.shift d).closeDelimited outer = (p.closeDelimited inner).shift d := by
  rw [Pending.closeDelimited, w.position_eq, Nat.add_right_comm,
    Pending.token_shift w p inner.position_le_size]
  rfl

theorem closeSymbol_shift (w : Window d inner outer) (p : Pending) {stop : Nat}
    (h : stop ≤ inner.size) :
    closeSymbol outer (p.shift d) (stop + d) =
      ((closeSymbol inner p stop).1.shift d, (closeSymbol inner p stop).2.shift d) := by
  have hslice : outer.slice (p.shift d).start (stop + d) = inner.slice p.start stop := w.slice h
  unfold closeSymbol
  rw [hslice]
  cases Symbol.ofChars? (inner.slice p.start stop) with
  | some s =>
    simp only [Mode.shift_after]
    rfl
  | none =>
    have hclose := Pending.close_shift w p.invalidated h
    simp only [Output.shift_append, ← hclose]
    rfl

theorem closeNumber_shift (w : Window d inner outer) (p : Pending) {stop : Nat}
    (h : stop ≤ inner.size) :
    closeNumber outer (p.shift d) (stop + d) = (closeNumber inner p stop).shift d := by
  unfold closeNumber
  simp only [Pending.category_shift, Pending.invalidated_shift, Pending.close_shift w _ h]
  split
  · rw [Output.shift_append]
    rfl
  · rfl

/-- What closes a mode with the end of its token at a column. -/
def Mode.closeAt (mode : Mode) (cursor : Cursor) (stop : Nat) : Output :=
  match mode with
  | .demarcated | .undemarcated | .documentation => .empty
  | .symbol p => (closeSymbol cursor p stop).1
  | .number p _ => closeNumber cursor p stop
  | .whitespace p | .word p | .doubleQuoted p | .singleQuoted p => p.close cursor stop

theorem finish_eq_closeAt (mode : Mode) (cursor : Cursor) :
    finish mode cursor = mode.closeAt cursor cursor.size := by
  cases mode <;> rfl

theorem Mode.closeAt_shift (w : Window d inner outer) (mode : Mode) {stop : Nat}
    (h : stop ≤ inner.size) :
    (mode.shift d).closeAt outer (stop + d) = (mode.closeAt inner stop).shift d := by
  cases mode with
  | demarcated | undemarcated | documentation => rfl
  | symbol p => exact congrArg Prod.fst (closeSymbol_shift w p h)
  | number p radix => exact closeNumber_shift w p h
  | whitespace p | word p | doubleQuoted p | singleQuoted p => exact Pending.close_shift w p h

/-! ## Transitions -/

theorem openSeparated_shift (w : Window d inner outer) (separated : Bool) (category : Category)
    (issue : SyntaxIssue) {enter : Pending → Mode}
    (h : ∀ p : Pending, enter (p.shift d) = (enter p).shift d) :
    openSeparated outer separated category issue enter =
      (openSeparated inner separated category issue enter).shift d := by
  simp only [openSeparated, w.position_eq, Pending.opened_shift, Pending.invalidated_shift, h]
  split <;> rfl

theorem openSymbol_shift (w : Window d inner outer) (c : Char) :
    openSymbol outer c = (openSymbol inner c).shift d := by
  simp only [openSymbol, w.position_eq, Pending.opened_shift, Nat.add_right_comm _ d 1]
  split
  · split
    · rw [Step.shift_next_after]
      rfl
    · rfl
  · rfl

theorem openDocumentation_shift (w : Window d inner outer) (hsize : outer.size = inner.size + d) :
    openDocumentation outer = (openDocumentation inner).shift d := by
  have hslice : outer.slice (inner.position + d) (inner.size + d) =
      inner.slice inner.position inner.size := w.slice (Nat.le_refl _)
  simp only [openDocumentation, w.position_eq, hsize, hslice, Token.tag_shift,
    Nat.add_sub_add_right]
  rfl

/-- A tab opens both lines or none. -/
theorem tabIssue_shift (w : Window d inner outer) (hc : inner.current? = some '\t') :
    tabIssue (inner.position + d) = tabIssue inner.position := by
  by_cases hpos : inner.position = 0
  · rcases w.opener with rfl | hne
    · rfl
    · rw [Cursor.current?, hpos] at hc
      exact absurd hc hne
  · rw [tabIssue, tabIssue, if_neg hpos, if_neg (by omega)]

theorem openLexeme_shift (w : Window d inner outer) (separated : Bool)
    (hc : inner.current? = some c)
    (hdoc : CharClass.of c = .hash → outer.size = inner.size + d) :
    openLexeme outer separated c = (openLexeme inner separated c).shift d := by
  unfold openLexeme
  split
  case h_1 htab =>
    rw [CharClass.of_eq_tab_iff.1 htab] at hc
    have hissue := tabIssue_shift w hc
    unfold tabIssue at hissue
    simp only [w.position_eq, hissue, Nat.add_right_comm _ d 1]
    rfl
  case h_2 =>
    simp only [w.position_eq, Pending.opened_shift]
    rfl
  case h_3 hhash => exact openDocumentation_shift w (hdoc hhash)
  case h_4 | h_5 | h_6 | h_7 | h_8 => exact openSeparated_shift w _ _ _ fun _ => rfl
  case h_9 | h_10 | h_11 => exact openSymbol_shift w c
  case h_12 =>
    simp only [w.position_eq, Nat.add_right_comm _ d 1, Token.tag_shift]
    rfl

theorem resumeWhitespace_shift (w : Window d inner outer) (p : Pending) (c : Char) :
    resumeWhitespace outer (p.shift d) c = (resumeWhitespace inner p c).shift d := by
  simp only [resumeWhitespace, w.position_eq, Pending.invalidated_shift, Nat.add_right_comm _ d 1,
    Pending.close_shift w p inner.position_le_size]
  split <;> rfl

theorem leaveSymbol_shift (w : Window d inner outer) (p : Pending) :
    leaveSymbol outer (p.shift d) = (leaveSymbol inner p).shift d := by
  simp only [leaveSymbol, w.position_eq, closeSymbol_shift w p inner.position_le_size]
  rfl

theorem resumeSymbol_shift (w : Window d inner outer) (c : Char) (h : p.start < inner.size) :
    resumeSymbol outer (p.shift d) c = (resumeSymbol inner p c).shift d := by
  simp only [resumeSymbol, Pending.start_shift, w.charAt?_eq _ h, w.position_eq,
    Nat.add_right_comm _ d 1, leaveSymbol_shift w p, Pending.recast_shift]
  split
  · rfl
  · by_cases hsymbolic : (CharClass.of c).isSymbolic = true
    · rw [if_pos hsymbolic, if_pos hsymbolic]
      split
      · rw [Step.shift_next_after]
        rfl
      · rfl
    · rw [if_neg hsymbolic, if_neg hsymbolic]
      split <;> rfl

theorem openMarked_shift (w : Window d inner outer) (h : p.start < inner.size) :
    openMarked outer (p.shift d) = (openMarked inner p).shift d := by
  simp only [openMarked, Pending.start_shift, Pending.invalid_shift, w.charAt?_eq _ h,
    Nat.add_right_comm _ d 1]
  split
  · rfl
  · split <;> rfl

theorem leaveWord_shift (w : Window d inner outer) (p : Pending) :
    leaveWord outer (p.shift d) = (leaveWord inner p).shift d := by
  simp only [leaveWord, w.position_eq, Pending.close_shift w p inner.position_le_size]
  rfl

theorem resumeWord_shift (w : Window d inner outer) (h : p.start < inner.size)
    (hc : inner.current? = some c) :
    resumeWord outer (p.shift d) c = (resumeWord inner p c).shift d := by
  have hlt := Cursor.position_lt_of_current? hc
  simp only [resumeWord, w.position_eq, Pending.recast_shift, Pending.invalidated_shift,
    Pending.width_shift, Nat.add_right_comm _ d 1, Pending.close_shift w _ hlt,
    leaveWord_shift w p, openMarked_shift w h]
  split <;> first | rfl | (split <;> rfl)

theorem isLoneZero_shift (w : Window d inner outer) (h : p.start < inner.size) :
    isLoneZero outer (p.shift d) = isLoneZero inner p := by
  simp only [isLoneZero, Pending.category_shift, Pending.start_shift, w.position_eq,
    Pending.width_shift, w.charAt?_eq _ h]

theorem leaveNumber_shift (w : Window d inner outer) (p : Pending) :
    leaveNumber outer (p.shift d) = (leaveNumber inner p).shift d := by
  simp only [leaveNumber, w.position_eq, closeNumber_shift w p inner.position_le_size]
  rfl

theorem illegalDigit_shift (w : Window d inner outer) (p : Pending) (radix : Radix) :
    illegalDigit outer (p.shift d) radix = (illegalDigit inner p radix).shift d := by
  simp only [illegalDigit, w.position_eq, Pending.invalidated_shift, Nat.add_right_comm _ d 1]
  rfl

theorem digitInNumber_shift (w : Window d inner outer) (p : Pending) (radix : Radix) (c : Char) :
    digitInNumber outer (p.shift d) radix c = (digitInNumber inner p radix c).shift d := by
  simp only [digitInNumber, illegalDigit_shift w]
  split <;> rfl

theorem letterInNumber_shift (w : Window d inner outer) (radix : Radix) (c : Char)
    (h : p.start < inner.size) :
    letterInNumber outer (p.shift d) radix c = (letterInNumber inner p radix c).shift d := by
  simp only [letterInNumber, illegalDigit_shift w, isLoneZero_shift w h, Pending.recast_shift,
    Pending.skipping_shift]
  (repeat' split) <;> rfl

theorem pointInNumber_shift (w : Window d inner outer) (p : Pending) (radix : Radix) :
    pointInNumber outer (p.shift d) radix = (pointInNumber inner p radix).shift d := by
  simp only [pointInNumber, w.position_eq, Pending.category_shift, Pending.opened_shift,
    Pending.skipping_shift, Pending.invalidated_shift, Pending.width_shift,
    Nat.add_right_comm _ d 1, closeNumber_shift w p inner.position_le_size,
    Pending.close_shift w p inner.position_le_size]
  split
  · rfl
  · split
    · rfl
    · simp only [Step.shift, Step.next, Output.shift_append]
      rfl

theorem openRepetend_shift (w : Window d inner outer) (p : Pending) (radix : Radix) :
    openRepetend outer (p.shift d) radix = (openRepetend inner p radix).shift d := by
  simp only [openRepetend, w.position_eq, Pending.category_shift, Pending.opened_shift,
    Pending.skipping_shift, Pending.invalidated_shift, Nat.add_right_comm _ d 1,
    leaveNumber_shift w, Pending.close_shift w p inner.position_le_size]
  split
  · rfl
  · rfl
  · simp only [Step.shift, Step.next, Output.shift_append]
    rfl

theorem resumeNumber_shift (w : Window d inner outer) (radix : Radix) (c : Char)
    (h : p.start < inner.size) :
    resumeNumber outer (p.shift d) radix c = (resumeNumber inner p radix c).shift d := by
  simp only [resumeNumber, digitInNumber_shift w, letterInNumber_shift w radix c h,
    pointInNumber_shift w, openRepetend_shift w, leaveNumber_shift w, Pending.category_shift,
    Pending.closeDelimited_shift w, w.position_eq, closeNumber_shift w p inner.position_le_size]
  split
  case h_1 | h_2 | h_3 | h_7 => rfl
  case h_4 => (repeat' split) <;> rfl
  case h_5 | h_6 =>
    simp only [Step.shift, Step.again, Output.shift_append]
    rfl

theorem resumeDoubleQuoted_shift (w : Window d inner outer) (p : Pending) (c : Char)
    (hpos : 0 < inner.position) :
    resumeDoubleQuoted outer (p.shift d) c = (resumeDoubleQuoted inner p c).shift d := by
  simp only [resumeDoubleQuoted, w.previous? hpos, Pending.closeDelimited_shift w]
  split <;> rfl

theorem resumeSingleQuoted_shift (w : Window d inner outer) (p : Pending) (c : Char)
    (hlt : inner.position < inner.size) :
    resumeSingleQuoted outer (p.shift d) c = (resumeSingleQuoted inner p c).shift d := by
  simp only [resumeSingleQuoted, w.peek?_eq_quote_iff hlt, Pending.closeDelimited_shift w]
  (repeat' split) <;> rfl

/-- A transition in a window is the one in the inner line, further right. -/
theorem step_shift {mode : Mode} (w : Window d inner outer) (hd : mode.Describes inner)
    (hc : inner.current? = some c)
    (hdoc : (step mode inner c).mode = .documentation → outer.size = inner.size + d) :
    step (mode.shift d) outer c = (step mode inner c).shift d := by
  have hlt := Cursor.position_lt_of_current? hc
  have hstart : ∀ {p : Pending}, mode.pending? = some p → p.start < inner.size := by
    intro p hp
    exact Nat.lt_trans (hd.start_lt hp) hlt
  have hhash : ∀ {separated : Bool}, CharClass.of c = .hash →
      (openLexeme inner separated c).mode = .documentation := by
    intro separated hhash
    simp only [openLexeme, hhash]
    rfl
  cases mode with
  | demarcated => exact openLexeme_shift w true hc fun h => hdoc (hhash h)
  | undemarcated => exact openLexeme_shift w false hc fun h => hdoc (hhash h)
  | whitespace p => exact resumeWhitespace_shift w p c
  | symbol p => exact resumeSymbol_shift w c (hstart rfl)
  | word p => exact resumeWord_shift w (hstart rfl) hc
  | number p radix => exact resumeNumber_shift w radix c (hstart rfl)
  | doubleQuoted p =>
    have hpos := hd.start_lt rfl
    exact resumeDoubleQuoted_shift w p c (by omega)
  | singleQuoted p => exact resumeSingleQuoted_shift w p c hlt
  | documentation => rfl

end

/-! ## Runs -/

/-- What is put out from a state to the end of the line. -/
def rest (mode : Mode) (cursor : Cursor) : Output :=
  (run mode cursor).output ++ finish (run mode cursor).mode cursor

section
variable {d : Nat} {mode : Mode} {cursor inner outer : Cursor} {c : Char}

theorem rest_of_none (h : cursor.current? = none) : rest mode cursor = finish mode cursor := by
  rw [rest, run_of_none h, Output.empty_append]

theorem rest_of_some (h : cursor.current? = some c) :
    rest mode cursor = (step mode cursor c).output ++
      rest (step mode cursor c).mode (cursor.advance (step mode cursor c).advance) := by
  rw [rest, rest, run_of_some h, Output.append_assoc,
    finish_congr (cursor.chars_advance (step mode cursor c).advance)]

/-- Documentation lasts. -/
theorem mode_run_documentation (cursor : Cursor) :
    (run .documentation cursor).mode = .documentation := by
  induction hmode : Mode.documentation, cursor using run_induction with
  | done mode cursor hnone => rw [run_of_none hnone]
  | next mode cursor c hc ih =>
    subst hmode
    rw [run_of_some hc]
    exact ih rfl

/-- The run in a window is that in the inner line, further right, up to the end of the window. -/
theorem rest_shift (w : Window d inner outer) (hd : mode.Describes inner)
    (hdoc : (run mode inner).mode = .documentation → outer.size = inner.size + d) :
    rest (mode.shift d) outer =
      (run mode inner).output.shift d ++
        rest ((run mode inner).mode.shift d) (outer.advance inner.remaining) := by
  induction mode, inner using run_induction generalizing outer with
  | done mode inner hnone =>
    have hend := Cursor.position_eq_of_current?_eq_none hnone
    have hzero : inner.remaining = 0 := by
      rw [Cursor.remaining, hend, Nat.sub_self]
    rw [run_of_none hnone, hzero, Cursor.advance_zero]
    rfl
  | next mode inner c hc ih =>
    have htransition := transition_step hd hc
    have hle := htransition.advance_le hc
    rw [run_of_some hc] at hdoc ⊢
    -- once documentation is opened, it is the mode at the end
    have hstep : step (mode.shift d) outer c = (step mode inner c).shift d := by
      refine step_shift w hd hc fun hmode => hdoc ?_
      show (run (step mode inner c).mode _).mode = _
      rw [hmode, mode_run_documentation]
    have hrest := ih (w.advance hle) (htransition.describes hd hc) hdoc
    rw [rest_of_some (w.current? hc), hstep]
    simp only [Step.shift, Output.shift_append, Output.append_assoc]
    have hremaining :
        (step mode inner c).advance + (inner.remaining - (step mode inner c).advance) =
          inner.remaining := by
      unfold Cursor.remaining
      omega
    rw [hrest, Cursor.advance_advance, Cursor.remaining_advance, hremaining]

/-- Where the window reaches to the end of the line, so does the run. -/
theorem rest_shift_of_size_eq (w : Window d inner outer) (hd : mode.Describes inner)
    (hsize : outer.size = inner.size + d) :
    rest (mode.shift d) outer = (rest mode inner).shift d := by
  have hle := inner.position_le_size
  have hpos : (outer.advance inner.remaining).position = outer.size := by
    rw [Cursor.position_advance (by rw [w.position_eq, Cursor.remaining]; omega), w.position_eq,
      Cursor.remaining]
    omega
  have hnone : (outer.advance inner.remaining).current? = none := Cursor.current?_eq_none hpos
  rw [rest_shift w hd fun _ => hsize, rest_of_none hnone, finish_congr (outer.chars_advance _),
    rest, Output.shift_append, finish_eq_closeAt, finish_eq_closeAt, hsize,
    Mode.closeAt_shift w _ (Nat.le_refl _)]

end

/-! ## Lines in two parts -/

section
variable {front back : List Char}

/-- The front of a line, as a window on it. -/
theorem window_front (h : back.head? ≠ some '\'') :
    Window 0 (Cursor.ofList front) (Cursor.ofList (front ++ back)) := by
  refine ⟨rfl, ?_, ?_, ?_, .inl rfl⟩
  · rw [Cursor.size_ofList, Cursor.size_ofList, List.length_append]
    omega
  · intro i hi
    rw [Cursor.size_ofList] at hi
    rw [Cursor.charAt?_ofList, Cursor.charAt?_ofList, Nat.add_zero, List.getElem?_append_left hi]
  · rw [Cursor.charAt?_ofList, Cursor.size_ofList, Nat.add_zero,
      List.getElem?_append_right (Nat.le_refl _), Nat.sub_self, ← List.head?_eq_getElem?]
    exact h

/-- The back of a line, as a window on it. -/
theorem window_back (h : front = [] ∨ back.head? ≠ some '\t') :
    Window front.length (Cursor.ofList back)
      ((Cursor.ofList (front ++ back)).advance front.length) := by
  have hsize : (Cursor.ofList (front ++ back)).size = front.length + back.length := by
    rw [Cursor.size_ofList, List.length_append]
  refine ⟨?_, ?_, ?_, ?_, ?_⟩
  · rw [Cursor.position_advance_ofList (by rw [List.length_append]; exact Nat.le_add_right _ _)]
    exact (Nat.zero_add _).symm
  · rw [Cursor.size_advance, Cursor.size_ofList, hsize]
    omega
  · intro i _
    rw [Cursor.charAt?_advance, Cursor.charAt?_ofList, Cursor.charAt?_ofList,
      List.getElem?_append_right (Nat.le_add_left _ _), Nat.add_sub_cancel]
  · rw [Cursor.charAt?_advance, Cursor.charAt?_ofList, Cursor.size_ofList,
      List.getElem?_append_right (Nat.le_add_left _ _), Nat.add_sub_cancel,
      List.getElem?_eq_none (Nat.le_refl _)]
    simp
  · rcases h with rfl | hne
    · exact .inl rfl
    · refine .inr ?_
      rw [Cursor.charAt?_ofList, ← List.head?_eq_getElem?]
      exact hne

/-- A line is scanned like its front, as far as that reaches. -/
theorem scan_append (h : back.head? ≠ some '\'') (hdoc : (runLine front).mode ≠ .documentation) :
    scan (front ++ back) = (runLine front).output ++
      rest (runLine front).mode ((Cursor.ofList (front ++ back)).advance front.length) := by
  have hremaining : (Cursor.ofList front).remaining = front.length := by
    rw [Cursor.remaining, Cursor.size_ofList]
    rfl
  have hshift : rest (Mode.demarcated.shift 0) (Cursor.ofList (front ++ back)) =
      (runLine front).output.shift 0 ++ rest ((runLine front).mode.shift 0)
        ((Cursor.ofList (front ++ back)).advance (Cursor.ofList front).remaining) :=
    rest_shift (window_front h) trivial fun hmode => absurd hmode hdoc
  rw [Mode.shift_zero, Mode.shift_zero, Output.shift_zero, hremaining] at hshift
  exact hshift

/-- From a separation on, a line is scanned like its back. -/
theorem rest_back (h : front = [] ∨ back.head? ≠ some '\t') :
    rest .demarcated ((Cursor.ofList (front ++ back)).advance front.length) =
      (scan back).shift front.length := by
  have hsize : ((Cursor.ofList (front ++ back)).advance front.length).size =
      (Cursor.ofList back).size + front.length := by
    rw [Cursor.size_advance, Cursor.size_ofList, Cursor.size_ofList, List.length_append,
      Nat.add_comm]
  have hdescribes : Mode.demarcated.Describes (Cursor.ofList back) := trivial
  exact rest_shift_of_size_eq (window_back h) hdescribes hsize

end

end Scan

end LineLexer
