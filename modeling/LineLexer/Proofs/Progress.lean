import LineLexer.Proofs.Invariant

/-!
# Progress of the scan

The recursion of `run` ends because `workLeft` falls with every transition. Here the transitions
are counted, which says how long a line takes: as only a transition out of a token can leave the
cursor in place, and the one after it does not, there are at most two for each character.

* `ReachesIn`: the states that a number of transitions lead to. There is at most one for each
  number (`ReachesIn.unique`);
* `ReachesIn.workLeft_le`: what has been done and what is left to do;
* `scan_progress`: transitions that stay in place, two transitions in a row, and all of them.
-/

namespace LineLexer.Scan

/-! ## Counting transitions -/

/-- The states that the scan of a line reaches in a number of transitions, with what has been put
out on the way. -/
inductive ReachesIn (code : List Char) : Nat → Mode → Cursor → Output → Prop
  | start : ReachesIn code 0 .demarcated (Cursor.ofList code) .empty
  | step {n : Nat} {mode : Mode} {cursor : Cursor} {output : Output} {c : Char}
      (h : ReachesIn code n mode cursor output) (hc : cursor.current? = some c) :
      ReachesIn code (n + 1) (step mode cursor c).mode
        (cursor.advance (step mode cursor c).advance) (output ++ (step mode cursor c).output)

section
variable {code : List Char} {n m : Nat} {mode mode' : Mode} {cursor cursor' : Cursor}
  {output output' : Output} {c : Char}

theorem ReachesIn.reaches (h : ReachesIn code n mode cursor output) :
    Reaches code mode cursor output := by
  induction h with
  | start => exact .start
  | step h hc ih => exact ih.step hc

/-- Every state that is reached takes some number of transitions. -/
theorem Reaches.exists_reachesIn (h : Reaches code mode cursor output) :
    ∃ n, ReachesIn code n mode cursor output := by
  induction h with
  | start => exact ⟨0, .start⟩
  | step h hc ih =>
    obtain ⟨n, hn⟩ := ih
    exact ⟨n + 1, hn.step hc⟩

/-- The number of transitions determines the state. -/
theorem ReachesIn.unique (h : ReachesIn code n mode cursor output)
    (h' : ReachesIn code n mode' cursor' output') :
    mode = mode' ∧ cursor = cursor' ∧ output = output' := by
  induction h generalizing mode' cursor' output' with
  | start =>
    cases h'
    exact ⟨rfl, rfl, rfl⟩
  | step h hc ih =>
    cases h' with
    | step h' hc' =>
      obtain ⟨rfl, rfl, rfl⟩ := ih h'
      obtain rfl : _ = _ := Option.some.inj (hc.symm.trans hc')
      exact ⟨rfl, rfl, rfl⟩

/-- On the way to a state there is a character at the cursor. -/
theorem ReachesIn.exists_current? (h : ReachesIn code n mode cursor output) (hm : m < n) :
    ∃ mode' cursor' output' c, ReachesIn code m mode' cursor' output' ∧
      cursor'.current? = some c := by
  induction h with
  | start => exact absurd hm (Nat.not_lt_zero m)
  | step h hc ih =>
    rcases Nat.lt_succ_iff_lt_or_eq.1 hm with hlt | rfl
    · exact ih hlt
    · exact ⟨_, _, _, _, h, hc⟩

/-- No transition follows a state at the end of the line. -/
theorem ReachesIn.le_of_current?_eq_none (h : ReachesIn code n mode cursor output)
    (hend : cursor.current? = none) (h' : ReachesIn code m mode' cursor' output') : m ≤ n := by
  refine Nat.le_of_not_lt fun hlt => ?_
  obtain ⟨_, _, _, c, hreach, hc⟩ := h'.exists_current? hlt
  obtain ⟨-, rfl, -⟩ := h.unique hreach
  rw [hend] at hc
  cases hc

/-- The transitions so far and the bound of those still to come are at most two for each
character. -/
theorem ReachesIn.workLeft_le (h : ReachesIn code n mode cursor output) :
    n + workLeft mode cursor ≤ 2 * code.length := by
  induction h with
  | start => simp [workLeft, Cursor.remaining, Cursor.ofList, Cursor.size, Mode.isBetween]
  | @step n mode cursor output c h hc ih =>
    have hless : workLeft (Scan.step mode cursor c).mode
        (cursor.advance (Scan.step mode cursor c).advance) < workLeft mode cursor :=
      workLeft_step hc
    omega

/-! ## The position of the cursor -/

/-- In a state that is reached, a transition moves the cursor on by what it consumes. -/
theorem position_step (h : Reaches code mode cursor output)
    (hc : cursor.current? = some c) :
    (cursor.advance (step mode cursor c).advance).position =
      cursor.position + (step mode cursor c).advance :=
  Cursor.position_advance ((transition_step h.describes hc).advance_le hc)

/-- Between two lexemes there is only one of two modes. -/
theorem Mode.eq_of_isBetween (h : mode.isBetween = true) :
    mode = .demarcated ∨ mode = .undemarcated := by
  cases mode <;> first | exact .inl rfl | exact .inr rfl | exact absurd h Bool.false_ne_true

/-- A transition that leaves the cursor in place leads to a mode from which the next one does not. -/
theorem advance_pos_of_step_in_place (hc : cursor.current? = some c)
    (hstep : (step mode cursor c).advance = 0) :
    0 < (step (step mode cursor c).mode cursor c).advance := by
  have hto := (step_in_place hc hstep).2
  refine Nat.pos_of_ne_zero fun hzero => ?_
  rw [(step_in_place hc hzero).1] at hto
  exact Bool.false_ne_true hto

/-- Two transitions in a row move the cursor on. -/
theorem position_lt_step_step (h : Reaches code mode cursor output) {d : Char}
    (hc : cursor.current? = some c)
    (hd : (cursor.advance (step mode cursor c).advance).current? = some d) :
    cursor.position <
      ((cursor.advance (step mode cursor c).advance).advance
        (step (step mode cursor c).mode (cursor.advance (step mode cursor c).advance) d).advance
        ).position := by
  rw [position_step (h.step hc) hd, position_step h hc]
  rcases Nat.eq_zero_or_pos (step mode cursor c).advance with hzero | hpos
  · rw [hzero, Cursor.advance_zero] at hd ⊢
    obtain rfl : c = d := Option.some.inj (hc.symm.trans hd)
    have hpos := advance_pos_of_step_in_place hc hzero
    omega
  · omega

end

/-- A transition that leaves the cursor in place leads between two lexemes, and the next one
consumes a character; so of two transitions in a row, one does. The run over a line ends after at
most two transitions for each character: no state is reached with more than it makes. -/
theorem scan_progress (code : List Char) :
    (∀ mode cursor output c, Reaches code mode cursor output → cursor.current? = some c →
      (step mode cursor c).advance = 0 →
      ((step mode cursor c).mode = .demarcated ∨ (step mode cursor c).mode = .undemarcated) ∧
        1 ≤ (step (step mode cursor c).mode cursor c).advance) ∧
    (∀ n mode mode' cursor cursor' output output', ReachesIn code n mode cursor output →
      ReachesIn code (n + 2) mode' cursor' output' → cursor.position < cursor'.position) ∧
    ∃ n mode cursor output, n ≤ 2 * code.length ∧ ReachesIn code n mode cursor output ∧
      cursor.current? = none ∧ runLine code = ⟨output, mode⟩ ∧
      ∀ m mode' cursor' output', ReachesIn code m mode' cursor' output' → m ≤ n := by
  refine ⟨?_, ?_, ?_⟩
  · intro mode cursor output c _ hc hstep
    exact ⟨Mode.eq_of_isBetween (step_in_place hc hstep).2, advance_pos_of_step_in_place hc hstep⟩
  · intro n mode mode' cursor cursor' output output' h h'
    cases h' with
    | step hmiddle hd =>
      cases hmiddle with
      | step hfirst hc =>
        obtain ⟨rfl, rfl, rfl⟩ := h.unique hfirst
        exact position_lt_step_step h.reaches hc hd
  · have hstart : Reaches code .demarcated (Cursor.ofList code) .empty := .start
    obtain ⟨last, hlast, hreach⟩ := hstart.run
    obtain ⟨n, hn⟩ := hreach.exists_reachesIn
    have hend : last.current? = none := Cursor.current?_eq_none hlast
    refine ⟨n, _, last, _, ?_, hn, hend, rfl, fun m mode' cursor' output' h' => ?_⟩
    · have := hn.workLeft_le
      omega
    · exact hn.le_of_current?_eq_none hend h'

end LineLexer.Scan
