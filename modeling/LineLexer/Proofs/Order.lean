import LineLexer.Proofs.Fault
import LineLexer.Proofs.Layout

/-!
# The order of diagnostics

The diagnostics of a source text stand in the order of its lines and, within a line, in the order
in which the scan comes by. A fault may start far to the left of the cursor, where its token
starts, but the leftmost of its locations ends between the columns of the cursor before and
after the transition that reports it (`Transition.ascends`); so these ends never decrease.

* `Scan.Ascends`: faults whose leftmost locations end in order, between two columns;
* `Diagnostic.Precedes`: the order of diagnostics;
* `lex_diagnostics`: what is known of the diagnostics of a source text.
-/

namespace LineLexer

namespace Scan

/-- The column behind the leftmost location of a place. -/
def Place.firstStop : Place → Nat
  | .span _ stop => stop
  | .gap column => column

theorem Place.first?_locations {line level : Nat} {place : Place} {location : Location}
    (h : (place.locations line level).first? = some location) :
    location.line = line ∧ location.stop = place.firstStop := by
  cases place <;> obtain rfl := Option.some.inj h <;> exact ⟨rfl, rfl⟩

/-- Faults whose leftmost locations end in order, from one column to another. -/
def Ascends : Nat → List Fault → Nat → Prop
  | low, [], high => low ≤ high
  | low, fault :: rest, high =>
    low ≤ fault.place.firstStop ∧ Ascends fault.place.firstStop rest high

namespace Ascends

theorem append {a b c : Nat} {faults more : List Fault} (h : Ascends a faults b)
    (h' : Ascends b more c) : Ascends a (faults ++ more) c := by
  induction faults generalizing a with
  | nil =>
    have hle : a ≤ b := h
    cases more with
    | nil => exact Nat.le_trans hle h'
    | cons fault rest => exact ⟨Nat.le_trans hle h'.1, h'.2⟩
  | cons fault rest ih => exact ⟨h.1, ih h.2⟩

theorem singleton {a b : Nat} {fault : Fault} (hlow : a ≤ fault.place.firstStop)
    (hhigh : fault.place.firstStop ≤ b) : Ascends a [fault] b :=
  ⟨hlow, hhigh⟩

/-- Every leftmost location ends behind the lower column. -/
theorem le_firstStop {a b : Nat} {faults : List Fault} (h : Ascends a faults b) :
    ∀ fault ∈ faults, a ≤ fault.place.firstStop := by
  induction faults generalizing a with
  | nil => exact fun _ hmem => absurd hmem List.not_mem_nil
  | cons first rest ih =>
    intro fault hfault
    rcases List.mem_cons.1 hfault with rfl | hfault
    · exact h.1
    · exact Nat.le_trans h.1 (ih h.2 fault hfault)

theorem pairwise {a b : Nat} {faults : List Fault} (h : Ascends a faults b) :
    faults.Pairwise fun first second => first.place.firstStop ≤ second.place.firstStop := by
  induction faults generalizing a with
  | nil => exact .nil
  | cons first rest ih => exact .cons h.2.le_firstStop (ih h.2)

end Ascends

/-! ## Along a run -/

section
variable {code : List Char} {cursor : Cursor} {c : Char} {mode next : Mode} {faults : List Fault}
  {t : Token} {n : Nat} {output : Output}

/-- Closing a part of a number reports it up to its end. -/
theorem ascends_closingFaults (p : Pending) (stop : Nat) :
    Ascends stop (closingFaults p stop) stop := by
  unfold closingFaults
  split
  · exact Ascends.singleton (Nat.le_refl stop) (Nat.le_refl stop)
  · exact Nat.le_refl stop

theorem ascends_gapUnless (separated : Bool) (issue : SyntaxIssue) (column : Nat) :
    Ascends column (gapUnless separated issue column) (column + 1) := by
  unfold gapUnless
  split
  · exact Nat.le_succ column
  · exact Ascends.singleton (Nat.le_refl column) (Nat.le_succ column)

/-- A fault about the character at a column ends behind it. -/
theorem ascends_character (issue : SyntaxIssue) (column : Nat) :
    Ascends column [⟨issue, .span column (column + 1)⟩] (column + 1) :=
  Ascends.singleton (Nat.le_succ column) (Nat.le_refl (column + 1))

theorem Opens.ascends {separated : Bool} (h : Opens cursor c separated faults next) :
    Ascends cursor.position faults (cursor.position + 1) := by
  cases h with
  | tab => exact ascends_character _ _
  | space | symbol => exact Nat.le_succ cursor.position
  | number | capitalized | uncapitalized | doubleQuoted | singleQuoted =>
    exact ascends_gapUnless separated _ cursor.position

theorem Emits.ascends (h : Emits cursor c faults t next n) :
    Ascends cursor.position faults (cursor.position + n) := by
  cases h with
  | illegal => exact ascends_character _ _
  | symbol | documentation => exact Nat.le_add_right _ _

theorem Resumes.ascends (h : Resumes cursor c mode faults next n) :
    Ascends cursor.position faults (cursor.position + n) := by
  cases h with
  | tab | illegalInWord | illegalDigit => exact ascends_character _ _
  | @unknownQuoted p mark hquote hwidth =>
    -- the mark is the only character of its word, so it ends at the cursor
    unfold Pending.width at hwidth
    apply Ascends.singleton
    · show cursor.position ≤ p.start + 1
      omega
    · show p.start + 1 ≤ cursor.position + 1
      omega
  | space | signed | word | binaryQuoted | hexQuoted | digit | binaryMark | hexMark | doubleQuoted
  | singleQuoted | doubledQuote => exact Nat.le_add_right _ _

theorem Closes.ascends (h : Closes cursor c mode faults t next n) :
    Ascends cursor.position faults (cursor.position + n) := by
  cases h with
  | @numberGap p radix => exact ⟨Nat.le_refl _, ascends_closingFaults p cursor.position⟩
  | number => exact ascends_closingFaults _ _
  | whitespace | pair | symbol | predicate | word | range | repetend | doubleQuoted
  | singleQuoted => exact Nat.le_add_right _ _

theorem HandsOver.ascends (h : HandsOver cursor c mode faults t next) :
    Ascends cursor.position faults (cursor.position + 1) := by
  have hpart : ∀ issue start, Ascends cursor.position
      [⟨issue, .span start (cursor.position + 1)⟩] (cursor.position + 1) := by
    intro issue start
    exact Ascends.singleton (Nat.le_succ _) (Nat.le_refl _)
  cases h with
  | fraction | repetend => exact Nat.le_succ cursor.position
  | secondPoint => exact (ascends_closingFaults _ _).append (hpart _ _)
  | pointless => exact hpart _ _

/-- What a transition reports ends between the columns that it takes the cursor from and to. -/
theorem Transition.ascends {s : Step} (h : Transition cursor c mode s) :
    Ascends cursor.position s.output.faults (cursor.position + s.advance) := by
  cases h with
  | opens h => exact h.ascends
  | emits h => exact h.ascends
  | resumes h => exact h.ascends
  | closes h => exact h.ascends
  | handsOver h => exact h.ascends

/-- In every reachable state the faults reported so far end in order, up to the cursor. -/
theorem Reaches.ascends (h : Reaches code mode cursor output) :
    Ascends 0 output.faults cursor.position := by
  induction h with
  | start => exact Nat.le_refl 0
  | step h hc ih =>
    have htransition := transition_step h.describes hc
    rw [Cursor.position_advance (htransition.advance_le hc)]
    exact ih.append htransition.ascends

/-- The faults of a line end in order. -/
theorem scan_ascends (code : List Char) : Ascends 0 (scan code).faults code.length := by
  obtain ⟨mode, cursor, output, hreach, hend, -, hscan⟩ := exists_reaches_scan code
  rw [hscan, ← hreach.size, ← hend]
  apply hreach.ascends.append
  rcases finishes_finish hreach.describes hend with ⟨-, hempty⟩ | ⟨faults, t, hfin, heq⟩
  · rw [hempty]
    exact Nat.le_refl cursor.position
  · rw [heq, hend]
    cases hfin with
    | number => exact ascends_closingFaults _ _
    | whitespace | symbol | word | doubleQuoted | singleQuoted => exact Nat.le_refl cursor.size

end

end Scan

/-! ## Diagnostics of lines -/

/-- The codes of the issues that the lexer reports. -/
def lexicalCodes : List Nat :=
  [11, 12, 13, 14, 15, 16, 17, 18, 20, 21, 23, 25, 26, 27]

/-- A location in the code of a line. -/
structure Location.IsIn (line : Line) (location : Location) : Prop where
  /-- The location carries the number of the line. -/
  number : location.line = line.number
  /-- The location carries the level of the line. -/
  level : location.level = line.level
  /-- There is something at the location. -/
  start_lt_stop : location.start < location.stop
  /-- The location ends with the code or before. -/
  stop_le_length : location.stop ≤ line.code.length

/-- One location in the code of a line, or two that are adjacent. -/
def Locations.AreIn (line : Line) : Locations → Prop
  | .none => False
  | .single location => location.IsIn line
  | .pair first second => first.IsIn line ∧ second.IsIn line ∧ first.stop = second.start

/-- The order of diagnostics: by line and, within a line, by the end of the leftmost location. -/
def Diagnostic.Precedes (d e : Diagnostic) : Prop :=
  ∀ first second, d.locations.first? = some first → e.locations.first? = some second →
    first.line < second.line ∨ first.line = second.line ∧ first.stop ≤ second.stop

theorem Scan.Fault.Placed.code_mem {size : Nat} {fault : Fault} (h : fault.Placed size) :
    fault.issue.code ∈ lexicalCodes := by
  unfold Placed at h
  split at h
  case h_15 => exact h.elim
  all_goals
    next hissue =>
    rw [hissue]
    decide

theorem Scan.Fault.Placed.areIn {line : Line} {fault : Fault} (h : fault.Placed line.code.length) :
    (fault.place.locations line.number line.level).AreIn line := by
  cases hplace : fault.place with
  | span start stop =>
    obtain ⟨hlt, hle⟩ := h.of_span hplace
    exact ⟨rfl, rfl, hlt, hle⟩
  | gap column =>
    obtain ⟨hpos, hlt⟩ := h.of_gap hplace
    have hbefore : column - 1 < column := by omega
    exact ⟨⟨rfl, rfl, hbefore, Nat.le_of_lt hlt⟩, ⟨rfl, rfl, Nat.lt_succ_self column, hlt⟩, rfl⟩

section
variable {line : Line} {d : Diagnostic}

/-- A diagnostic of a line names an issue of the lexer and points into the line. -/
theorem Line.areIn_of_mem_tokenize (h : d ∈ line.tokenize.2) :
    d.phase = .parsing ∧ d.issue ∈ lexicalCodes ∧ d.locations.AreIn line.tokenized := by
  obtain ⟨fault, hfault, rfl⟩ := List.mem_map.1 h
  have hplaced := Scan.scan_placed line.tokenized.code.toList fault hfault
  rw [String.length_toList] at hplaced
  exact ⟨rfl, hplaced.code_mem, hplaced.areIn⟩

/-- The leftmost location of a diagnostic of a line carries the number of the line. -/
theorem Line.number_of_mem_tokenize {location : Location} (h : d ∈ line.tokenize.2)
    (hfirst : d.locations.first? = some location) : location.line = line.number := by
  obtain ⟨fault, -, rfl⟩ := List.mem_map.1 h
  exact (Scan.Place.first?_locations hfirst).1

/-- The diagnostics of a line stand in order. -/
theorem Line.pairwise_tokenize (line : Line) : line.tokenize.2.Pairwise Diagnostic.Precedes := by
  have hpairwise := (Scan.scan_ascends line.code.toList).pairwise
  refine List.pairwise_map.2 (hpairwise.imp ?_)
  intro fault fault' hle first second hfirst hsecond
  obtain ⟨hline, hstop⟩ := Scan.Place.first?_locations hfirst
  obtain ⟨hline', hstop'⟩ := Scan.Place.first?_locations hsecond
  refine .inr ⟨hline.trans hline'.symm, ?_⟩
  rw [hstop, hstop']
  exact hle

end

/-- The diagnostics of a source text are issues of the lexer, point into lines of the unit, and
stand in order. They are what is collected line after line, each line with a list of its own; in a
list with earlier diagnostics, those of a line leave the earlier ones as they are and do not depend
on them. -/
theorem lex_diagnostics (id : ComponentId) (presets : Presets) (source : String) :
    ∃ unit, SourceUnit.lex id presets source = .ok unit ∧
      (∀ d ∈ unit.diagnostics, d.phase = .parsing ∧ d.issue ∈ lexicalCodes ∧
        ∃ line ∈ unit.lines, d.locations.AreIn line) ∧
      unit.diagnostics.Pairwise Diagnostic.Precedes ∧
      unit.diagnostics = (SourceUnit.linearize id presets.indentation source).lines.flatMap
        (fun line => (line.tokenizeInto []).2) ∧
      ∀ (line : Line) (earlier : List Diagnostic),
        line.tokenizeInto earlier =
          ((line.tokenizeInto []).1, earlier ++ (line.tokenizeInto []).2) := by
  refine ⟨_, SourceUnit.lex_eq id presets source, fun d hd => ?_, ?_, rfl, fun line earlier => rfl⟩
  · obtain ⟨line, hline, hd⟩ := List.mem_flatMap.1 hd
    obtain ⟨hphase, hissue, hin⟩ := Line.areIn_of_mem_tokenize hd
    exact ⟨hphase, hissue, line.tokenized, List.mem_map_of_mem hline, hin⟩
  · refine List.pairwise_flatMap.2 ⟨fun line _ => line.pairwise_tokenize, ?_⟩
    refine (Layout.linesOf_pairwise presets.indentation source.toList).imp ?_
    intro line other hlt d hd e he first second hfirst hsecond
    rw [Line.number_of_mem_tokenize hd hfirst, Line.number_of_mem_tokenize he hsecond]
    exact .inl hlt

end LineLexer
