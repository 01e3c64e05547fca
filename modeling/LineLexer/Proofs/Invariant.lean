import LineLexer.Proofs.Transition

/-!
# The invariant of the scan

Every transition keeps `Mode.Describes`, so it holds in all states that the scan of a line
reaches. `Reaches` are these states, each with what has been put out on the way, and
`exists_reaches_scan` says that the scan of a line ends in one of them. What is true of
the whole scan is proved by induction along `Reaches`, with the invariant at hand and with
`Transition` for the cases of one step.
-/

namespace LineLexer.Scan

/-! ## Spans and marks of the tokens that transitions put out -/

@[simp] theorem start_tag (category : Category) (text? : Option String) (start stop : Nat)
    (invalid : Bool) : (Token.tag category text? start stop invalid).start = start := by
  cases text? <;> rfl

@[simp] theorem stop_tag (category : Category) (text? : Option String) (start stop : Nat)
    (invalid : Bool) : (Token.tag category text? start stop invalid).stop = stop := by
  cases text? <;> rfl

@[simp] theorem invalid_tag (category : Category) (text? : Option String) (start stop : Nat)
    (invalid : Bool) : (Token.tag category text? start stop invalid).invalid = invalid := by
  cases text? <;> rfl

@[simp] theorem Pending.start_token (p : Pending) (cursor : Cursor) (lexemeStop stop : Nat) :
    (p.token cursor lexemeStop stop).start = p.start := by
  unfold token
  split <;> simp

@[simp] theorem Pending.stop_token (p : Pending) (cursor : Cursor) (lexemeStop stop : Nat) :
    (p.token cursor lexemeStop stop).stop = stop := by
  unfold token
  split <;> simp

@[simp] theorem Pending.invalid_token (p : Pending) (cursor : Cursor) (lexemeStop stop : Nat) :
    (p.token cursor lexemeStop stop).invalid = p.invalid := by
  unfold token
  split <;> simp

@[simp] theorem start_closedNumber (cursor : Cursor) (p : Pending) (stop : Nat) :
    (closedNumber cursor p stop).start = p.start := by
  unfold closedNumber
  split <;> simp [Pending.invalidated]

@[simp] theorem stop_closedNumber (cursor : Cursor) (p : Pending) (stop : Nat) :
    (closedNumber cursor p stop).stop = stop := by
  simp [closedNumber]

theorem Mode.isBetween_after (s : Symbol) : (Mode.after s).isBetween = true := by
  unfold Mode.after
  split <;> rfl

theorem Mode.pending?_eq_none_of_isBetween {mode : Mode} (h : mode.isBetween = true) :
    mode.pending? = none := by
  cases mode <;> first | rfl | exact absurd h Bool.false_ne_true

section
variable {cursor : Cursor} {c : Char} {mode next : Mode} {faults : List Fault} {t : Token} {n : Nat}

/-- A token is opened at the cursor. -/
theorem Opens.pending? {separated : Bool} (h : Opens cursor c separated faults next) :
    ∃ p, next.pending? = some p ∧ p.start = cursor.position := by
  cases h <;> exact ⟨_, rfl, rfl⟩

/-- A whole token reaches from the cursor to where the cursor goes. -/
theorem Emits.span (h : Emits cursor c faults t next n) (hc : cursor.current? = some c) :
    next.pending? = none ∧ t.start = cursor.position ∧ t.stop = cursor.position + n ∧ 0 < n ∧
      cursor.position + n ≤ cursor.size := by
  have hlt := Cursor.position_lt_of_current? hc
  cases h with
  | symbol h hs hu =>
    exact ⟨Mode.pending?_eq_none_of_isBetween (Mode.isBetween_after _), rfl, rfl, Nat.one_pos, hlt⟩
  | illegal h => exact ⟨rfl, by simp, by simp, Nat.one_pos, hlt⟩
  | documentation h => exact ⟨rfl, by simp, by simp; omega, by omega, by omega⟩

/-- Going on with a token does not move its start. -/
theorem Resumes.pending? (h : Resumes cursor c mode faults next n) :
    ∃ p q, mode.pending? = some p ∧ next.pending? = some q ∧ q.start = p.start := by
  cases h <;> exact ⟨_, _, rfl, rfl, rfl⟩

/-- Going on with a token takes one character, or the two of a doubled quote. -/
theorem Resumes.advance_eq (h : Resumes cursor c mode faults next n) :
    n = 1 ∨ n = 2 ∧ next.isQuoted = true ∧ cursor.peek? 1 = some '\'' := by
  cases h with
  | doubledQuote _ hnext => exact .inr ⟨rfl, rfl, hnext⟩
  | space | tab | signed | word | illegalInWord | binaryQuoted | hexQuoted | unknownQuoted | digit
  | illegalDigit | binaryMark | hexMark | doubleQuoted | singleQuoted => exact .inl rfl

/-- The token under construction is emitted up to where the cursor goes. -/
theorem Closes.span (h : Closes cursor c mode faults t next n) :
    next.isBetween = true ∧ n ≤ 1 ∧
      ∃ p, mode.pending? = some p ∧ t.start = p.start ∧ t.stop = cursor.position + n := by
  have hn : n ≤ 1 := by cases h <;> omega
  cases h <;>
    first
    | exact ⟨rfl, hn, _, rfl, by simp [Pending.recast, Token.ofSymbol], by simp [Token.ofSymbol]⟩
    | exact ⟨Mode.isBetween_after _, hn, _, rfl, rfl, rfl⟩

/-- A part of a number ends where the next one starts. -/
theorem HandsOver.span (h : HandsOver cursor c mode faults t next) :
    ∃ p q, mode.pending? = some p ∧ next.pending? = some q ∧ t.start = p.start ∧
      t.stop = cursor.position ∧ q.start = cursor.position := by
  cases h <;> exact ⟨_, _, rfl, rfl, by simp, by simp, rfl⟩

/-- A transition does not lead past the end of the line. -/
theorem Transition.advance_le {s : Step} (h : Transition cursor c mode s)
    (hc : cursor.current? = some c) : cursor.position + s.advance ≤ cursor.size := by
  have hlt := Cursor.position_lt_of_current? hc
  cases h with
  | opens | handsOver => exact hlt
  | emits h =>
    obtain ⟨-, -, -, -, hle⟩ := h.span hc
    exact hle
  | @closes _ _ _ _ n h =>
    obtain ⟨-, hn, -⟩ := h.span
    show cursor.position + n ≤ cursor.size
    omega
  | resumes h =>
    cases h
    case doubledQuote _ hnext => exact Cursor.lt_size_of_charAt? hnext
    all_goals exact hlt

/-- At the end of the line the token under construction reaches to the end. -/
theorem Finishes.span (h : Finishes cursor mode faults t) :
    ∃ p, mode.pending? = some p ∧ t.start = p.start ∧ t.stop = cursor.size := by
  cases h <;> exact ⟨_, rfl, by simp [Token.ofSymbol], by simp [Token.ofSymbol]⟩

end

/-! ## How the texts of tokens grow -/

theorem isName_signedName (sign : Char) (letter : CharClass) :
    (signedName sign letter).isName = true := by
  unfold signedName
  (repeat' split) <;> rfl

theorem WordText.append {p : Pending} {text : List Char} {c : Char} (h : WordText p text)
    (hc : continuesWord (CharClass.of c) = true) : WordText p (text ++ [c]) := by
  obtain ⟨sign, letter, rest, htext, hsign, hletter, hrest⟩ := h.shape
  refine ⟨h.category, h.offset, sign, letter, rest ++ [c], ?_, hsign, hletter, ?_⟩
  · rw [htext, List.append_assoc, List.cons_append]
  · intro d hd
    rcases List.mem_append.1 hd with hd | hd
    · exact hrest d hd
    · rw [List.mem_singleton.1 hd]
      exact hc

/-- A word of one character is a letter. -/
theorem WordText.letter_of_singleton {p : Pending} {text : List Char} {c : Char}
    (h : WordText p text) (htext : text = [c]) : (CharClass.of c).isLetterClass = true := by
  obtain ⟨sign, letter, rest, hshape, hsign, hletter, -⟩ := h.shape
  rw [htext] at hshape
  rcases hsign with rfl | ⟨d, rfl, -⟩
  · rw [(List.cons.inj hshape).1]
    exact hletter
  · simp at hshape

theorem NumberText.append {p : Pending} {radix : Radix} {text : List Char} {c : Char}
    (h : NumberText p radix text) (hc : IsAlphanumeric c) : NumberText p radix (text ++ [c]) := by
  have hgrow : ∀ {rest : List Char}, (∀ d ∈ rest, IsAlphanumeric d) →
      ∀ d ∈ rest ++ [c], IsAlphanumeric d := by
    intro rest hrest d hd
    rcases List.mem_append.1 hd with hd | hd
    · exact hrest d hd
    · rw [List.mem_singleton.1 hd]
      exact hc
  cases h with
  | integer hcat hoff hdigit hrest => exact .integer hcat hoff hdigit (hgrow hrest)
  | binary hcat hoff hmark hrest => exact .binary hcat hoff hmark (hgrow hrest)
  | hexadecimal hcat hoff hmark hrest => exact .hexadecimal hcat hoff hmark (hgrow hrest)
  | fraction hcat hoff hrest => exact .fraction hcat hoff (hgrow hrest)
  | repetend hcat hoff hrest => exact .repetend hcat hoff (hgrow hrest)

/-- A fault does not change what is known of the text. -/
theorem NumberText.invalidated {p : Pending} {radix : Radix} {text : List Char}
    (h : NumberText p radix text) : NumberText p.invalidated radix text := by
  cases h with
  | integer hcat hoff hdigit hrest => exact .integer hcat hoff hdigit hrest
  | binary hcat hoff hmark hrest => exact .binary hcat hoff hmark hrest
  | hexadecimal hcat hoff hmark hrest => exact .hexadecimal hcat hoff hmark hrest
  | fraction hcat hoff hrest => exact .fraction hcat hoff hrest
  | repetend hcat hoff hrest => exact .repetend hcat hoff hrest

theorem BlankText.append {p : Pending} {text : List Char} {c : Char} (h : BlankText p text)
    (hc : c = ' ' ∨ c = '\t') : BlankText p (text ++ [c]) := by
  refine ⟨h.category, by simp, ?_⟩
  intro d hd
  rcases List.mem_append.1 hd with hd | hd
  · exact h.blank d hd
  · rw [List.mem_singleton.1 hd]
    exact hc

theorem DoubleText.append {p : Pending} {text : List Char} (h : DoubleText p text)
    (more : List Char) : DoubleText p (text ++ more) := by
  obtain ⟨content, rfl⟩ := h.shape
  exact ⟨h.category, h.offset, content ++ more, rfl⟩

theorem SingleText.append {p : Pending} {text : List Char} (h : SingleText p text)
    (more : List Char) : SingleText p (text ++ more) := by
  cases h with
  | plain hcat hoff => exact .plain hcat hoff
  | marked hcat hoff => exact .marked hcat hoff

/-! ## Preservation -/

section
variable {cursor : Cursor} {c : Char} {mode next : Mode} {faults : List Fault} {t : Token} {n : Nat}

/-- Between two lexemes, and not at the start of the line, the invariant says nothing. -/
theorem describes_of_isBetween (h : mode.isBetween = true) (hpos : 0 < cursor.position) :
    mode.Describes cursor := by
  cases mode <;> first | exact trivial | exact hpos | exact absurd h Bool.false_ne_true

theorem Opens.describes {separated : Bool} (h : Opens cursor c separated faults next)
    (hc : cursor.current? = some c) : next.Describes (cursor.advance 1) := by
  have htext : ∀ {p : Pending}, p.start = cursor.position → p.text (cursor.advance 1) = [c] :=
    fun hp => Pending.text_opened hp hc
  cases h with
  | tab h =>
    rw [Mode.Describes, htext rfl, CharClass.of_eq_tab_iff.1 h]
    exact ⟨rfl, by simp, by simp⟩
  | space h =>
    rw [Mode.Describes, htext rfl, CharClass.of_eq_space_iff.1 h]
    exact ⟨rfl, by simp, by simp⟩
  | number h =>
    rw [Mode.Describes, htext rfl]
    exact .integer rfl rfl h (by simp)
  | capitalized h | uncapitalized h =>
    rw [Mode.Describes, htext rfl]
    exact ⟨rfl, rfl, [], c, [], rfl, .inl rfl, by rw [h]; rfl, by simp⟩
  | doubleQuoted h =>
    rw [Mode.Describes, htext rfl, CharClass.of_eq_doubleQuote_iff.1 h]
    exact ⟨rfl, rfl, [], rfl⟩
  | singleQuoted h =>
    rw [Mode.Describes, htext rfl, CharClass.of_eq_singleQuote_iff.1 h]
    exact .plain rfl rfl
  | symbol h hs hambiguous => exact ⟨rfl, c, _, htext rfl, hs, hambiguous⟩

theorem Emits.describes (h : Emits cursor c faults t next n) (hc : cursor.current? = some c) :
    next.Describes (cursor.advance n) := by
  have hpos := Cursor.position_advance_one hc
  have hlt := Cursor.position_lt_of_current? hc
  cases h with
  | symbol h hs hu => exact describes_of_isBetween (Mode.isBetween_after _) (by omega)
  | illegal h => exact trivial
  | documentation h =>
    rw [Mode.Describes, Cursor.position_advance (by omega), Cursor.size_advance]
    omega

theorem Closes.describes (h : Closes cursor c mode faults t next n)
    (hd : mode.Describes cursor) : next.Describes (cursor.advance n) := by
  obtain ⟨hbetween, -, p, hp, -, -⟩ := h.span
  have hlt := hd.start_lt hp
  have hle := Cursor.position_le_position_advance cursor n
  exact describes_of_isBetween hbetween (by omega)

theorem HandsOver.describes (h : HandsOver cursor c mode faults t next)
    (hc : cursor.current? = some c) : next.Describes (cursor.advance 1) := by
  have htext : ∀ {p : Pending}, p.start = cursor.position → p.text (cursor.advance 1) = [c] :=
    fun hp => Pending.text_opened hp hc
  cases h with
  | fraction h hcat | secondPoint h hcat =>
    rw [Mode.Describes, htext rfl, h]
    exact .fraction rfl rfl (by simp)
  | repetend h hcat | pointless h hcat =>
    rw [Mode.Describes, htext rfl, h]
    exact .repetend rfl rfl (by simp)

/-- A lone zero has the text `0`. -/
theorem text_of_isLoneZero {p : Pending} (h : isLoneZero cursor p = true) :
    p.text cursor = ['0'] := by
  simp only [isLoneZero, Bool.and_eq_true, beq_iff_eq] at h
  exact Pending.text_of_width_one h.1.2 h.2

theorem Resumes.describes (h : Resumes cursor c mode faults next n)
    (hd : mode.Describes cursor) (hc : cursor.current? = some c) :
    next.Describes (cursor.advance n) := by
  -- the token starts at the same column before and after, so its text only grows
  have htext : ∀ {p : Pending}, mode.pending? = some p →
      p.text (cursor.advance 1) = p.text cursor ++ [c] := by
    intro p hp
    exact Pending.text_advance_one (Nat.le_of_lt (hd.start_lt hp)) hc
  have hmark : ∀ {p : Pending} {d : Char}, mode.pending? = some p →
      p.width cursor.position = 1 → cursor.charAt? p.start = some d →
      p.text (cursor.advance 1) = [d, c] := by
    intro p d hp hwidth hchar
    rw [htext hp, Pending.text_of_width_one hwidth hchar]
    rfl
  cases h with
  | space h =>
    rw [Mode.Describes, htext rfl]
    exact BlankText.append hd (.inl (CharClass.of_eq_space_iff.1 h))
  | @tab p h =>
    show BlankText _ (p.text (cursor.advance 1))
    rw [htext rfl]
    have hblank := BlankText.append hd (.inr (CharClass.of_eq_tab_iff.1 h))
    exact ⟨hblank.category, hblank.nonempty, hblank.blank⟩
  | @signed p first hfirst hsign h =>
    show WordText _ (p.text (cursor.advance 1))
    rw [htext rfl, hd.text_symbol hfirst]
    refine ⟨isName_signedName _ _, ?_, [first], c, [], rfl, .inr ⟨first, rfl, hsign⟩, h, by simp⟩
    exact congrArg Pending.offset (HeldText.opened hd)
  | word h =>
    rw [Mode.Describes, htext rfl]
    refine WordText.append hd ?_
    simp only [List.mem_cons, List.not_mem_nil, or_false] at h
    rcases h with h | h | h | h <;> rw [h] <;> rfl
  | @illegalInWord p h =>
    have hcont : continuesWord (CharClass.of c) = true := by
      simp only [List.mem_cons, List.not_mem_nil, or_false] at h
      rcases h with h | h <;> rw [h] <;> rfl
    have hword := WordText.append hd hcont
    show WordText _ (p.text (cursor.advance 1))
    rw [htext rfl]
    exact ⟨hword.category, hword.offset, hword.shape⟩
  | @binaryQuoted p mark h hwidth hchar hbin =>
    show SingleText _ (p.text (cursor.advance 1))
    rw [hmark rfl hwidth hchar, CharClass.of_eq_singleQuote_iff.1 h]
    exact .marked (.inl ⟨hbin, rfl⟩) rfl
  | @hexQuoted p mark h hwidth hchar hhex =>
    show SingleText _ (p.text (cursor.advance 1))
    rw [hmark rfl hwidth hchar, CharClass.of_eq_singleQuote_iff.1 h]
    exact .marked (.inr (.inl ⟨hhex, rfl⟩)) rfl
  | @unknownQuoted p mark h hwidth hchar hbin hhex =>
    show SingleText _ (p.text (cursor.advance 1))
    rw [hmark rfl hwidth hchar, CharClass.of_eq_singleQuote_iff.1 h]
    refine .marked (.inr (.inr ⟨?_, rfl⟩)) rfl
    exact WordText.letter_of_singleton hd (Pending.text_of_width_one hwidth hchar)
  | digit h hlegal =>
    rw [Mode.Describes, htext rfl]
    exact NumberText.append hd h
  | @illegalDigit p radix h hillegal hunmarked =>
    show NumberText _ _ (p.text (cursor.advance 1))
    rw [htext rfl]
    exact (NumberText.append hd h).invalidated
  | @binaryMark p radix hzero hbin =>
    show NumberText _ _ (p.text (cursor.advance 1))
    rw [htext rfl, text_of_isLoneZero hzero]
    exact .binary rfl rfl hbin (by simp)
  | @hexMark p radix hzero hhex =>
    show NumberText _ _ (p.text (cursor.advance 1))
    rw [htext rfl, text_of_isLoneZero hzero]
    exact .hexadecimal rfl rfl hhex (by simp)
  | doubleQuoted h =>
    rw [Mode.Describes, htext rfl]
    exact DoubleText.append hd _
  | singleQuoted h =>
    rw [Mode.Describes, htext rfl]
    exact SingleText.append hd _
  | doubledQuote h hnext =>
    obtain ⟨more, hmore⟩ := Pending.exists_text_advance 2 (Nat.le_of_lt (hd.start_lt rfl))
    rw [Mode.Describes, hmore]
    exact SingleText.append hd _

/-- Every transition keeps the invariant. -/
theorem Transition.describes {s : Step} (h : Transition cursor c mode s)
    (hd : mode.Describes cursor) (hc : cursor.current? = some c) :
    s.mode.Describes (cursor.advance s.advance) := by
  cases h with
  | opens h => exact h.describes hc
  | emits h => exact h.describes hc
  | resumes h => exact h.describes hd hc
  | closes h => exact h.describes hd
  | handsOver h => exact h.describes hc

end

/-! ## Reachable states -/

/-- The states that the scan of a line reaches, each with what has been put out on the way. -/
inductive Reaches (code : List Char) : Mode → Cursor → Output → Prop
  | start : Reaches code .demarcated (Cursor.ofList code) .empty
  | step {mode : Mode} {cursor : Cursor} {output : Output} {c : Char}
      (h : Reaches code mode cursor output) (hc : cursor.current? = some c) :
      Reaches code (step mode cursor c).mode (cursor.advance (step mode cursor c).advance)
        (output ++ (step mode cursor c).output)

section
variable {code : List Char} {mode : Mode} {cursor : Cursor} {output : Output}

/-- The cursor never leaves its line. -/
theorem Reaches.chars (h : Reaches code mode cursor output) : cursor.chars = code.toArray := by
  induction h with
  | start => rfl
  | step h hc ih => exact ih

/-- The invariant holds in every reachable state. -/
theorem Reaches.describes (h : Reaches code mode cursor output) : mode.Describes cursor := by
  induction h with
  | start => exact trivial
  | step h hc ih => exact (transition_step ih hc).describes ih hc

theorem Reaches.size (h : Reaches code mode cursor output) : cursor.size = code.length :=
  Cursor.size_of_chars h.chars

/-- Induction along a run, from the end of the line backwards. -/
theorem run_induction {motive : Mode → Cursor → Prop}
    (done : ∀ mode cursor, cursor.current? = none → motive mode cursor)
    (next : ∀ mode cursor c, cursor.current? = some c →
      motive (step mode cursor c).mode (cursor.advance (step mode cursor c).advance) →
      motive mode cursor) (mode : Mode) (cursor : Cursor) : motive mode cursor :=
  run.induct motive done next mode cursor

/-- The run from a reachable state goes on to the end of the line. -/
theorem Reaches.run (h : Reaches code mode cursor output) :
    ∃ last, last.position = last.size ∧
      Reaches code (run mode cursor).mode last (output ++ (run mode cursor).output) := by
  induction mode, cursor using run_induction generalizing output with
  | done mode cursor hnone =>
    rw [run_of_none hnone, Output.append_empty]
    exact ⟨cursor, Cursor.position_eq_of_current?_eq_none hnone, h⟩
  | next mode cursor c hc ih =>
    obtain ⟨last, hlast, hreach⟩ := ih (h.step hc)
    rw [run_of_some hc, ← Output.append_assoc]
    exact ⟨last, hlast, hreach⟩

/-- Closing what is open does not depend on where the cursor stands. -/
theorem finish_congr {first second : Cursor} (h : first.chars = second.chars) (mode : Mode) :
    finish mode first = finish mode second := by
  have hsize : first.size = second.size := congrArg Array.size h
  have hslice : ∀ start stop, first.slice start stop = second.slice start stop := by
    intro start stop
    rw [Cursor.slice, Cursor.slice, h]
  cases mode <;>
    simp only [finish, closeSymbol, closeNumber, Pending.close, Pending.token, hsize, hslice]

/-- The scan of a line puts out what the transitions yield on the way to a state at its end, and
what closes that state. -/
theorem exists_reaches_scan (code : List Char) :
    ∃ mode cursor output, Reaches code mode cursor output ∧ cursor.position = cursor.size ∧
      mode = (runLine code).mode ∧ scan code = output ++ finish mode cursor := by
  have hstart : Reaches code .demarcated (Cursor.ofList code) .empty := .start
  obtain ⟨last, hlast, hreach⟩ := hstart.run
  have hfinish :
      finish (runLine code).mode last = finish (runLine code).mode (Cursor.ofList code) :=
    finish_congr hreach.chars _
  refine ⟨_, last, _, hreach, hlast, rfl, ?_⟩
  exact congrArg ((runLine code).output ++ ·) hfinish.symm

/-- What holds of the output of every transition and of the end of the line holds of the scan, if
it is kept by putting outputs together. -/
theorem scan_induction {P : Output → Prop} (empty : P .empty)
    (append : ∀ {a b : Output}, P a → P b → P (a ++ b))
    (step : ∀ {mode cursor output c s}, Reaches code mode cursor output →
      cursor.current? = some c → Transition cursor c mode s → P s.output)
    (finish : ∀ {mode cursor output faults t}, Reaches code mode cursor output →
      cursor.position = cursor.size → Finishes cursor mode faults t → P ⟨[t], faults⟩) :
    P (scan code) := by
  have hreaches : ∀ {mode cursor output}, Reaches code mode cursor output → P output := by
    intro mode cursor output h
    induction h with
    | start => exact empty
    | step h hc ih => exact append ih (step h hc (transition_step h.describes hc))
  obtain ⟨mode, cursor, output, hreach, hend, -, hscan⟩ := exists_reaches_scan code
  rw [hscan]
  apply append (hreaches hreach)
  rcases finishes_finish hreach.describes hend with ⟨-, hempty⟩ | ⟨faults, t, hfin, heq⟩
  · rw [hempty]
    exact empty
  · rw [heq]
    exact finish hreach hend hfin

/-- What holds of every token that is put out, wherever that happens, holds of the tokens of the
scan. -/
theorem forall_mem_scan {P : Token → Prop}
    (emits : ∀ {mode cursor output c faults t next n}, Reaches code mode cursor output →
      cursor.current? = some c → Emits cursor c faults t next n → P t)
    (closes : ∀ {mode cursor output c faults t next n}, Reaches code mode cursor output →
      cursor.current? = some c → Closes cursor c mode faults t next n → P t)
    (handsOver : ∀ {mode cursor output c faults t next}, Reaches code mode cursor output →
      cursor.current? = some c → HandsOver cursor c mode faults t next → P t)
    (finishes : ∀ {mode cursor output faults t}, Reaches code mode cursor output →
      cursor.position = cursor.size → Finishes cursor mode faults t → P t) :
    ∀ t ∈ (scan code).tokens, P t := by
  apply scan_induction (P := fun output => ∀ t ∈ output.tokens, P t)
  case empty => exact fun _ ht => absurd ht List.not_mem_nil
  case append => exact fun ha hb => List.forall_mem_append.2 ⟨ha, hb⟩
  case finish =>
    exact fun hreach hend h => List.forall_mem_singleton.2 (finishes hreach hend h)
  case step =>
    intro mode cursor output c s hreach hc h
    cases h with
    | opens | resumes => exact fun _ ht => absurd ht List.not_mem_nil
    | emits h => exact List.forall_mem_singleton.2 (emits hreach hc h)
    | closes h => exact List.forall_mem_singleton.2 (closes hreach hc h)
    | handsOver h => exact List.forall_mem_singleton.2 (handsOver hreach hc h)

end

end LineLexer.Scan
