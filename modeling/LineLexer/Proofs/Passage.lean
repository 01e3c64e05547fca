import LineLexer.Proofs.Isolation

/-!
# Passing over a text

A cursor divides its line in two: `Cursor.before` and `Cursor.after`. All that a transition asks a
cursor for can be said of these two texts, and so the scan of a line of a known form is
followed character by character along the line: `Passes` says that the scan comes by a place
between two texts, in which mode and with what output, and `Passes.step` takes it on by one
transition.

* `Passes.step`, `Passes.take`, `Passes.leave`: one transition, given by its conditions;
* `passes_open`, `Passes.hold`: the first character of a token;
* `Passes.run`: a run of characters that all leave the mode as it is;
* `Passes.scan_eq`, `Passes.exists_scan`: what a place on the way says about the whole scan;
* `Pending.literal`, `Pending.token_eq`: a literal that is closed, field by field;
* `Line.tokenize_of_scan`: the tokens of a line from those of its scan.
-/

namespace LineLexer

/-! ## The two sides of a cursor -/

namespace Cursor

/-- The characters in front of a cursor. -/
def before (cursor : Cursor) : List Char :=
  cursor.chars.toList.take cursor.position

/-- The characters from a cursor on. -/
def after (cursor : Cursor) : List Char :=
  cursor.chars.toList.drop cursor.position

variable (cursor : Cursor)

theorem before_append_after : cursor.before ++ cursor.after = cursor.chars.toList :=
  List.take_append_drop _ _

@[simp] theorem length_before : cursor.before.length = cursor.position := by
  rw [before, List.length_take, length_toList_chars, Nat.min_eq_left cursor.position_le_size]

theorem size_eq : cursor.size = cursor.before.length + cursor.after.length := by
  rw [← List.length_append, before_append_after, length_toList_chars]

theorem current?_eq : cursor.current? = cursor.after.head? := by
  rw [after, List.head?_drop, Array.getElem?_toList]
  rfl

theorem peek?_one : cursor.peek? 1 = cursor.after.tail.head? := by
  rw [after, List.tail_drop, List.head?_drop, Array.getElem?_toList]
  rfl

theorem charAt?_of_lt {i : Nat} (h : i < cursor.position) :
    cursor.charAt? i = cursor.before[i]? := by
  rw [before, List.getElem?_take_of_lt h, Array.getElem?_toList]
  rfl

theorem previous?_eq : cursor.previous? = cursor.before.getLast? := by
  rw [previous?, List.getLast?_eq_getElem?, length_before]
  split
  · next h =>
    rw [List.getElem?_eq_none]
    rw [length_before, h]
  · exact cursor.charAt?_of_lt (by omega)

theorem slice_position (start : Nat) :
    cursor.slice start cursor.position = cursor.before.drop start :=
  cursor.slice_eq start cursor.position

theorem slice_position_succ {start : Nat} {c : Char} (h : start ≤ cursor.position)
    (hc : cursor.current? = some c) :
    cursor.slice start (cursor.position + 1) = (cursor.before ++ [c]).drop start := by
  rw [slice_succ h hc, slice_position, List.drop_append_of_le_length (by rwa [length_before])]

/-- Where nothing follows, the line has ended. -/
theorem position_eq_of_after {cursor : Cursor} (h : cursor.after = []) :
    cursor.position = cursor.size := by
  rw [size_eq, h, length_before]
  rfl

section
variable {cursor : Cursor} {before after taken : List Char}

theorem before_advance (hafter : cursor.after = taken ++ after) :
    (cursor.advance taken.length).before = cursor.before ++ taken := by
  have hle : cursor.position + taken.length ≤ cursor.size := by
    rw [size_eq, hafter, length_before, List.length_append]
    omega
  rw [Cursor.before, position_advance hle, chars_advance, ← before_append_after, hafter,
    ← length_before, List.take_append, List.take_of_length_le (Nat.le_add_right _ _),
    Nat.add_sub_cancel_left, List.take_left]

theorem before_advance_one {c : Char} (hc : cursor.current? = some c) :
    (cursor.advance 1).before = cursor.before ++ [c] := by
  have hhead := (cursor.current?_eq).symm.trans hc
  have hafter : cursor.after = [c] ++ cursor.after.tail := List.eq_cons_of_mem_head? hhead
  exact before_advance hafter

/-- At the end of a line, the whole line stands in front of the cursor. -/
theorem before_eq_of_end {code : List Char} (hcode : cursor.chars = code.toArray)
    (hend : cursor.position = cursor.size) : cursor.before = code := by
  rw [before, hcode, hend, size_of_chars hcode, List.take_length]

theorem after_advance (hafter : cursor.after = taken ++ after) :
    (cursor.advance taken.length).after = after := by
  have hle : cursor.position + taken.length ≤ cursor.size := by
    rw [size_eq, hafter, length_before, List.length_append]
    omega
  rw [Cursor.after, position_advance hle, chars_advance, ← List.drop_drop]
  exact (congrArg (List.drop taken.length) hafter).trans List.drop_left

end

end Cursor

namespace Scan

/-! ## Tokens under construction -/

section
variable {p : Pending} {cursor : Cursor}

theorem Pending.text_eq : p.text cursor = cursor.before.drop p.start :=
  cursor.slice_position p.start

/-- The token of a part of a number or of a quoted literal, by what stands in front of its end. -/
def Pending.literal (p : Pending) (before : List Char) (stop : Nat) : Token :=
  ⟨p.category, .text (String.ofList (before.drop (p.start + p.offset))), p.start, stop, p.invalid⟩

/-- No part of a number and no quoted literal turns out to be reserved. -/
theorem Pending.token_eq (h : p.category.isNumber = true ∨ p.category.isQuoting = true)
    (stop : Nat) : p.token cursor cursor.position stop = p.literal cursor.before stop := by
  obtain ⟨hcategory, hlexeme⟩ := Pending.token_of_isLiteral cursor h cursor.position stop
  rw [cursor.slice_position, List.drop_drop] at hlexeme
  have hstart := p.start_token cursor cursor.position stop
  have hstop := p.stop_token cursor cursor.position stop
  have hinvalid := p.invalid_token cursor cursor.position stop
  rw [literal, ← hcategory, ← hlexeme, ← hinvalid]
  generalize p.token cursor cursor.position stop = t at *
  rw [← hstart, ← hstop]

end

/-! ## Places on the way -/

/-- The scan of a line comes by the place between two parts of it, in a mode and with what has been
put out on the way. -/
def Passes (before after : List Char) (mode : Mode) (output : Output) : Prop :=
  ∃ cursor : Cursor, cursor.before = before ∧ cursor.after = after ∧
    Reaches (before ++ after) mode cursor output

section
variable {before after taken : List Char} {mode next : Mode} {output : Output} {c : Char}
  {separated : Bool} {s : Symbol}

theorem Passes.start (code : List Char) : Passes [] code .demarcated .empty :=
  ⟨Cursor.ofList code, rfl, rfl, .start⟩

/-- One transition, from all that is known of the place it is made at. -/
theorem Passes.step (h : Passes before (c :: after) mode output) (taken : List Char)
    {rest : List Char} (hrest : c :: after = taken ++ rest) {s : Output}
    (htransition : ∀ cursor : Cursor, cursor.before = before → cursor.after = c :: after →
      mode.Describes cursor → Transition cursor c mode ⟨s, next, taken.length⟩) :
    Passes (before ++ taken) rest next (output ++ s) := by
  obtain ⟨cursor, hbefore, hafter, hreach⟩ := h
  have hc : cursor.current? = some c := by
    rw [cursor.current?_eq, hafter]
    rfl
  have htaken := hafter.trans hrest
  have hline : before ++ c :: after = before ++ taken ++ rest := by
    rw [hrest, List.append_assoc]
  have hnext :=
    hreach.transition hc (htransition cursor hbefore hafter hreach.describes)
  rw [hline] at hnext
  refine ⟨cursor.advance taken.length, ?_, Cursor.after_advance htaken, hnext⟩
  rw [Cursor.before_advance htaken, hbefore]

/-- A transition that takes a character. -/
theorem Passes.take (h : Passes before (c :: after) mode output) {s : Output}
    (htransition : ∀ cursor : Cursor, cursor.before = before → cursor.after = c :: after →
      mode.Describes cursor → Transition cursor c mode ⟨s, next, 1⟩) :
    Passes (before ++ [c]) after next (output ++ s) :=
  h.step [c] rfl htransition

/-- A transition that leaves the character to the next mode. -/
theorem Passes.leave (h : Passes before (c :: after) mode output) {s : Output}
    (htransition : ∀ cursor : Cursor, cursor.before = before → cursor.after = c :: after →
      mode.Describes cursor → Transition cursor c mode ⟨s, next, 0⟩) :
    Passes before (c :: after) next (output ++ s) := by
  have hstep := h.step [] rfl htransition
  rwa [List.append_nil] at hstep

/-- The first character of a line opens a token. -/
theorem passes_open (after : List Char) (enter : Nat → Mode)
    (hopens : ∀ cursor : Cursor, Opens cursor c true [] (enter cursor.position)) :
    Passes [c] after (enter 0) .empty := by
  refine (Passes.start (c :: after)).take (s := .empty) fun cursor hbefore _ _ => ?_
  have hposition : cursor.position = 0 := by rw [← cursor.length_before, hbefore]; rfl
  rw [← hposition]
  exact .opens (hopens cursor)

/-- Characters that go on with the token under construction, and leave its mode as it is. -/
theorem Passes.run (h : Passes before (taken ++ after) mode output)
    (htaken : ∀ c ∈ taken, ∀ cursor : Cursor, Resumes cursor c mode [] mode 1) :
    Passes (before ++ taken) after mode output := by
  induction taken generalizing before with
  | nil => rwa [List.append_nil]
  | cons c taken ih =>
    have htake := h.take fun cursor _ _ _ => .resumes (htaken c List.mem_cons_self cursor)
    have hrun := ih (Output.append_empty output ▸ htake)
      fun d hd => htaken d (List.mem_cons_of_mem c hd)
    rwa [List.append_assoc] at hrun

/-- A symbol that longer ones start with is held back. -/
theorem Passes.hold (h : Passes before (c :: after) (.between separated) output)
    (hs : Symbol.ofChar? c = some s) (hambiguous : s.unambiguous = false) :
    Passes (before ++ [c]) after (.symbol (.opened .punctuation before.length)) output := by
  have hclass : (CharClass.of c).isSymbolic = true :=
    CharClass.isSymbolic_of_mem_chars (s := s) (by rw [Symbol.chars_of_ofChars? hs]; simp)
  have htake : Passes (before ++ [c]) after (.symbol (.opened .punctuation before.length))
      (output ++ .empty) := h.take fun cursor hbefore _ _ => by
    rw [← hbefore, cursor.length_before]
    exact .opens (.symbol hclass hs hambiguous)
  rwa [Output.append_empty] at htake

/-- The symbol held back is the character before the cursor. -/
theorem position_held {cursor : Cursor} (hbefore : cursor.before = before ++ [c]) :
    cursor.position = before.length + 1 ∧ cursor.charAt? before.length = some c := by
  have hposition : cursor.position = before.length + 1 := by
    rw [← cursor.length_before, hbefore, List.length_append, List.length_singleton]
  refine ⟨hposition, ?_⟩
  rw [cursor.charAt?_of_lt (by omega), hbefore, List.getElem?_concat_length]

/-- What the scan of a line puts out, from a place at its end. -/
theorem Passes.scan_eq {code : List Char} (h : Passes code [] mode output) {s : Output}
    (hfinish : ∀ cursor : Cursor, cursor.before = code → cursor.after = [] →
      mode.Describes cursor → finish mode cursor = s) :
    scan code = output ++ s := by
  obtain ⟨cursor, hbefore, hafter, hreach⟩ := h
  rw [List.append_nil] at hreach
  rw [hreach.scan_eq_of_end (Cursor.position_eq_of_after hafter),
    hfinish cursor hbefore hafter hreach.describes]

/-- What has been put out on the way is part of what the scan puts out. -/
theorem Passes.exists_scan (h : Passes before after mode output) :
    ∃ more, scan (before ++ after) = output ++ more := by
  obtain ⟨cursor, -, -, hreach⟩ := h
  exact ⟨rest mode cursor, hreach.scan_eq⟩

end

end Scan

/-! ## The tokens of a line -/

section
variable {line : Line}

/-- A scan without faults gives the tokens of a line. -/
theorem Line.tokenize_of_scan {tokens : List Token}
    (h : Scan.scan line.code.toList = ⟨tokens, []⟩) : line.tokenize = (tokens, []) := by
  rw [tokenize, h]
  rfl

/-- A line without diagnostics is one that is scanned without faults. -/
theorem Line.tokenize_snd_eq_nil_iff :
    line.tokenize.2 = [] ↔ (Scan.scan line.code.toList).faults = [] :=
  List.map_eq_nil_iff

end

end LineLexer
