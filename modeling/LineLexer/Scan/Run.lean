import LineLexer.Scan.Step

/-!
# The scan of a line

`run` repeats `step` until the line is used up, and `scan` then closes what is
still open. The run ends because every transition lowers twice the number of
remaining characters plus one for a token under construction.
-/

namespace LineLexer.Scan

/-- Outcome of the transitions over a line: what they yielded, and the mode at its end. -/
structure Run where
  /-- Tokens and faults of all transitions. -/
  output : Output
  /-- The mode in which the line ended. -/
  mode : Mode
deriving DecidableEq, Repr

/-- Bounds the transitions still to come. -/
def workLeft (mode : Mode) (cursor : Cursor) : Nat :=
  2 * cursor.remaining + if mode.isBetween then 0 else 1

/-- Every transition lowers the bound. -/
theorem workLeft_step {mode : Mode} {cursor : Cursor} {c : Char}
    (h : cursor.current? = some c) :
    workLeft (step mode cursor c).mode (cursor.advance (step mode cursor c).advance) <
      workLeft mode cursor := by
  have hpos := Cursor.remaining_pos_of_current? h
  simp only [workLeft, Cursor.remaining_advance]
  by_cases hzero : (step mode cursor c).advance = 0
  · obtain ⟨hfrom, hto⟩ := step_in_place h hzero
    simp only [hzero, hfrom, hto]
    simp
  · split <;> split <;> omega

/-- The transitions from a mode and a position to the end of the line. -/
def run (mode : Mode) (cursor : Cursor) : Run :=
  match _h : cursor.current? with
  | none => ⟨.empty, mode⟩
  | some c =>
    let s := step mode cursor c
    let rest := run s.mode (cursor.advance s.advance)
    ⟨s.output ++ rest.output, rest.mode⟩
termination_by workLeft mode cursor
decreasing_by exact workLeft_step (by assumption)

/-- The run over a whole line. -/
def runLine (code : List Char) : Run :=
  run .demarcated (Cursor.ofList code)

/-- Tokens and faults of a line. -/
def scan (code : List Char) : Output :=
  let r := runLine code
  r.output ++ finish r.mode (Cursor.ofList code)

/-- At the end of the line nothing is left to do. -/
theorem run_of_none {mode : Mode} {cursor : Cursor} (h : cursor.current? = none) :
    run mode cursor = ⟨.empty, mode⟩ := by
  rw [run]
  split
  · rfl
  · simp_all

/-- A run is its first transition followed by the run from there. -/
theorem run_of_some {mode : Mode} {cursor : Cursor} {c : Char} (h : cursor.current? = some c) :
    run mode cursor =
      let s := step mode cursor c
      let rest := run s.mode (cursor.advance s.advance)
      ⟨s.output ++ rest.output, rest.mode⟩ := by
  rw [run]
  split
  · simp_all
  · next d hd =>
    obtain rfl : d = c := by simpa [h] using hd.symm
    rfl

end LineLexer.Scan
