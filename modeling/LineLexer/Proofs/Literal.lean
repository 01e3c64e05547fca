import LineLexer.Proofs.Layout
import LineLexer.Proofs.Lexeme
import LineLexer.Proofs.Resync

/-!
# Quoted literals on their way into a unit

Where the code of a physical line ends is decided before anything is known of quotes: at the
first hash, wherever it stands. So a quoted literal gets into the unit exactly if there is
no hash before its end, and is cut otherwise: `lex_literals`.

The trimmed line is a window on the line behind its indentation. A literal that ends inside the
window is put out inside it, since a quoted literal is put out at its closing quote and not
later; and that quote is not blank, so it is not trimmed off.
-/

namespace LineLexer

/-- A lexeme with the same quote in front of it and behind it. -/
def Token.IsClosed (code : List Char) (t : Token) : Prop :=
  ∃ mark quote content, (quote = '"' ∨ quote = '\'') ∧
    t.lexeme = .text (String.ofList content) ∧ t.raw code = mark ++ quote :: content ++ [quote]

theorem isBlank_of_quote {c : Char} (h : c = '"' ∨ c = '\'') : Text.isBlank c = false := by
  rcases h with rfl | rfl <;> rfl

/-- A closed literal ends with a quote. -/
theorem Token.IsClosed.exists_quote {code : List Char} {t : Token} (h : t.IsClosed code)
    (hstop : t.stop ≤ code.length) :
    0 < t.stop ∧ ∃ c, code[t.stop - 1]? = some c ∧ (c = '"' ∨ c = '\'') := by
  obtain ⟨mark, quote, content, hquote, -, hraw⟩ := h
  have hlength : (t.raw code).length = t.stop - t.start := by
    rw [Token.raw, List.length_drop, List.length_take, Nat.min_eq_left hstop]
  have hlast : (t.raw code)[(mark ++ quote :: content).length]? = some quote := by
    rw [hraw, List.getElem?_append_right (Nat.le_refl _), Nat.sub_self]
    rfl
  rw [hraw, List.length_append, List.length_singleton] at hlength
  have hcolumn : t.start + (mark ++ quote :: content).length = t.stop - 1 := by omega
  refine ⟨by omega, quote, ?_, hquote⟩
  rw [Token.raw, List.getElem?_drop, hcolumn, List.getElem?_take_of_lt (by omega)] at hlast
  exact hlast

namespace Scan

/-! ## Where quoted literals are put out -/

theorem isQuoting_of_tag {category : Category} {text? : Option String} {start stop : Nat}
    {invalid : Bool} (h : (Token.tag category text? start stop invalid).category.isQuoting = true) :
    category.isQuoting = true := by
  cases text? with
  | none => exact absurd h Bool.false_ne_true
  | some text =>
    simp only [Token.tag, Token.classify] at h
    (repeat' split at h) <;> first | exact h | exact absurd h Bool.false_ne_true

section
variable {cursor : Cursor} {c : Char} {mode next : Mode} {faults : List Fault} {t : Token} {n : Nat}
  {p : Pending} {s : Step}

theorem Pending.isQuoting_of_token {lexemeStop stop : Nat}
    (h : (p.token cursor lexemeStop stop).category.isQuoting = true) :
    p.category.isQuoting = true := by
  unfold token at h
  split at h
  · exact nomatch h
  · exact isQuoting_of_tag h

theorem isQuoting_of_closedNumber {stop : Nat}
    (h : (closedNumber cursor p stop).category.isQuoting = true) : p.category.isQuoting = true := by
  have hpending := Pending.isQuoting_of_token h
  split at hpending <;> exact hpending

/-- A quoted literal is under construction in the two modes between quotes only. -/
theorem Mode.Describes.isQuoted (hd : mode.Describes cursor) (hp : mode.pending? = some p)
    (hquoting : p.category.isQuoting = true) : mode.isQuoted = true := by
  have hname : p.category.isName ≠ true := by
    intro hname
    cases hcat : p.category <;> rw [hcat] at hname hquoting <;> contradiction
  have hnumber : p.category.isNumber ≠ true := by
    intro hnumber
    cases hcat : p.category <;> rw [hcat] at hnumber hquoting <;> contradiction
  cases mode <;> simp only [Mode.pending?, Option.some.injEq, reduceCtorEq] at hp <;> subst hp
  case whitespace q =>
    rw [BlankText.category hd] at hquoting
    exact absurd hquoting Bool.false_ne_true
  case symbol q =>
    rw [HeldText.opened hd] at hquoting
    exact absurd hquoting Bool.false_ne_true
  case word q => exact absurd (WordText.category hd) hname
  case number q radix => exact absurd (NumberText.isNumber hd) hnumber
  case doubleQuoted q | singleQuoted q => rfl

theorem Emits.isQuoting_eq_false (h : Emits cursor c faults t next n) :
    t.category.isQuoting = false := by
  refine eq_false_of_ne_true fun hquoting => ?_
  cases h with
  | symbol => exact nomatch hquoting
  | illegal | documentation => exact nomatch isQuoting_of_tag hquoting

/-- A quoted literal is put out at its closing quote. -/
theorem Closes.isQuoted (h : Closes cursor c mode faults t next n) (hd : mode.Describes cursor)
    (hquoting : t.category.isQuoting = true) : mode.isQuoted = true ∧ n = 1 := by
  cases h with
  | doubleQuoted | singleQuoted => exact ⟨rfl, rfl⟩
  | pair | symbol | range => exact nomatch hquoting
  | predicate => exact nomatch Pending.isQuoting_of_token hquoting
  | whitespace | word | repetend =>
    exact nomatch hd.isQuoted rfl (Pending.isQuoting_of_token hquoting)
  | numberGap | number => exact nomatch hd.isQuoted rfl (isQuoting_of_closedNumber hquoting)

theorem HandsOver.isQuoting_eq_false (h : HandsOver cursor c mode faults t next)
    (hd : mode.Describes cursor) : t.category.isQuoting = false := by
  refine eq_false_of_ne_true fun hquoting => ?_
  cases h with
  | fraction | repetend | pointless =>
    exact nomatch hd.isQuoted rfl (Pending.isQuoting_of_token hquoting)
  | secondPoint => exact nomatch hd.isQuoted rfl (isQuoting_of_closedNumber hquoting)

theorem Transition.isQuoted (h : Transition cursor c mode s) (hd : mode.Describes cursor)
    (ht : t ∈ s.output.tokens) (hquoting : t.category.isQuoting = true) :
    mode.isQuoted = true ∧ t.stop = cursor.position + 1 := by
  cases h with
  | opens h | resumes h => exact absurd ht List.not_mem_nil
  | emits h =>
    rw [List.mem_singleton.1 ht, h.isQuoting_eq_false] at hquoting
    exact nomatch hquoting
  | handsOver h =>
    rw [List.mem_singleton.1 ht, h.isQuoting_eq_false hd] at hquoting
    exact nomatch hquoting
  | closes h =>
    obtain rfl := List.mem_singleton.1 ht
    obtain ⟨hquoted, rfl⟩ := h.isQuoted hd hquoting
    obtain ⟨-, -, p, -, -, hstop⟩ := h.span
    exact ⟨hquoted, hstop⟩

theorem Finishes.isQuoted (h : Finishes cursor mode faults t) (hd : mode.Describes cursor)
    (hquoting : t.category.isQuoting = true) : mode.isQuoted = true := by
  cases h with
  | doubleQuoted | singleQuoted => rfl
  | symbol => exact nomatch hquoting
  | whitespace | word => exact nomatch hd.isQuoted rfl (Pending.isQuoting_of_token hquoting)
  | number => exact nomatch hd.isQuoted rfl (isQuoting_of_closedNumber hquoting)

/-- A quoted literal that is still to be put out ends behind the cursor, or where the line ends. -/
theorem stop_of_mem_rest (hd : mode.Describes cursor) (ht : t ∈ (rest mode cursor).tokens)
    (hquoting : t.category.isQuoting = true) :
    cursor.position < t.stop ∨ t.stop = cursor.size := by
  induction mode, cursor using run_induction with
  | done mode cursor hnone =>
    rw [rest_of_none hnone] at ht
    rcases finishes_finish hd (Cursor.position_eq_of_current?_eq_none hnone) with
      ⟨-, hempty⟩ | ⟨faults, u, hfin, heq⟩
    · rw [hempty] at ht
      exact absurd ht List.not_mem_nil
    · rw [heq] at ht
      obtain ⟨p, -, -, hstop⟩ := hfin.span
      rw [List.mem_singleton.1 ht]
      exact .inr hstop
  | next mode cursor c hc ih =>
    have htransition := transition_step hd hc
    rw [rest_of_some hc, Output.tokens_append] at ht
    rcases List.mem_append.1 ht with ht | ht
    · obtain ⟨-, hstop⟩ := htransition.isQuoted hd ht hquoting
      exact .inl (by omega)
    · have hle := Cursor.position_le_position_advance cursor (step mode cursor c).advance
      rcases ih (htransition.describes hd hc) ht with hlt | hsize
      · exact .inl (by omega)
      · exact .inr hsize

/-! ## Hashes -/

/-- Documentation starts with a hash. -/
theorem Transition.eq_hash (h : Transition cursor c mode s) (hmode : s.mode = .documentation) :
    c = '#' := by
  cases h with
  | opens h => cases h <;> exact nomatch hmode
  | emits h =>
    cases h with
    | @symbol s =>
      have hbetween := Mode.isBetween_after s
      rw [show Mode.after s = .documentation from hmode] at hbetween
      exact nomatch hbetween
    | illegal => exact nomatch hmode
    | documentation h => exact CharClass.of_eq_hash_iff.1 h
  | resumes h => cases h <;> exact nomatch hmode
  | @closes _ next _ _ _ h =>
    obtain ⟨hbetween, -⟩ := h.span
    rw [show next = .documentation from hmode] at hbetween
    exact nomatch hbetween
  | handsOver h => cases h <;> exact nomatch hmode

/-- A line without hashes does not end in documentation. -/
theorem runLine_ne_documentation {code : List Char} (h : '#' ∉ code) :
    (runLine code).mode ≠ .documentation := by
  have hreaches : ∀ {mode cursor output}, Reaches code mode cursor output →
      mode ≠ .documentation := by
    intro mode cursor output hreach
    induction hreach with
    | start => exact Mode.noConfusion
    | @step mode cursor output c hreach hc ih =>
      intro hmode
      obtain rfl := (transition_step hreach.describes hc).eq_hash hmode
      refine h (List.mem_of_getElem? (i := cursor.position) ?_)
      rw [← Cursor.charAt?_of_chars hreach.chars]
      exact hc
  obtain ⟨mode, cursor, output, hreach, -, hmode, -⟩ := exists_reaches_scan code
  exact hmode ▸ hreaches hreach

end

/-! ## The front of a line -/

section
variable {front back : List Char} {mode : Mode} {inner outer : Cursor} {t : Token}

/-- A reachable cursor is given by its position. -/
theorem Reaches.eq_advance {code : List Char} {cursor : Cursor} {output : Output}
    (h : Reaches code mode cursor output) :
    cursor = (Cursor.ofList code).advance cursor.position := by
  have hchars := h.chars
  obtain ⟨chars, position, hle⟩ := cursor
  obtain rfl : chars = code.toArray := hchars
  have hposition : min (0 + position) code.toArray.size = position := by
    rw [Nat.zero_add, Nat.min_eq_left hle]
  simp only [Cursor.advance, Cursor.ofList, Cursor.size, hposition]

/-- What a mode says about the text is true in a longer line as well, documentation apart. -/
theorem Mode.Describes.of_window (w : Window 0 inner outer) (hd : mode.Describes inner)
    (hdoc : mode ≠ .documentation) : mode.Describes outer := by
  have hposition : outer.position = inner.position := w.position_eq
  have htext : ∀ p : Pending, p.text outer = p.text inner := by
    intro p
    rw [Pending.text, Pending.text, hposition]
    exact w.slice inner.position_le_size
  cases mode with
  | demarcated => exact trivial
  | undemarcated =>
    rw [Mode.Describes, hposition]
    exact hd
  | documentation => exact absurd rfl hdoc
  | whitespace p | symbol p | word p | number p radix | doubleQuoted p | singleQuoted p =>
    rw [Mode.Describes, htext]
    exact hd

/-- The mode at the end of the front describes the text in the whole line. -/
theorem describes_runLine (hquote : back.head? ≠ some '\'')
    (hdoc : (runLine front).mode ≠ .documentation) :
    (runLine front).mode.Describes ((Cursor.ofList (front ++ back)).advance front.length) := by
  obtain ⟨mode, cursor, output, hreach, hend, rfl, -⟩ := exists_reaches_scan front
  have hdescribes := hreach.describes
  rw [hreach.eq_advance, hend, hreach.size] at hdescribes
  have hle : (Cursor.ofList front).position + front.length ≤ (Cursor.ofList front).size := by
    rw [Cursor.size_ofList]
    exact Nat.le_of_eq (Nat.zero_add _)
  exact hdescribes.of_window ((window_front hquote).advance hle) hdoc

/-- A quoted literal that ends in the front of a line is a token of the front. -/
theorem mem_scan_front (hquote : back.head? ≠ some '\'') (hhash : '#' ∉ front)
    (ht : t ∈ (scan (front ++ back)).tokens) (hquoting : t.category.isQuoting = true)
    (hstop : t.stop ≤ front.length) : t ∈ (scan front).tokens := by
  have hdoc := runLine_ne_documentation hhash
  cases back with
  | nil => rwa [List.append_nil] at ht
  | cons c back =>
    rw [scan_append hquote hdoc, Output.tokens_append] at ht
    rcases List.mem_append.1 ht with ht | ht
    · exact List.mem_append_left _ ht
    · -- what is put out behind the front ends behind it
      have hlength : (front ++ c :: back).length = front.length + (back.length + 1) :=
        List.length_append
      rcases stop_of_mem_rest (describes_runLine hquote hdoc) ht hquoting with hlt | hlast
      · rw [Cursor.position_advance_ofList (by omega)] at hlt
        omega
      · rw [Cursor.size_advance, Cursor.size_ofList, hlength] at hlast
        omega

end

/-! ## The first quote of a line -/

section
variable {code : List Char} {cursor : Cursor} {c : Char} {mode : Mode} {output : Output} {s : Step}

/-- The modes between quotes are entered at a quote. -/
theorem Transition.eq_quote (h : Transition cursor c mode s) (hmode : mode.isQuoted = false)
    (hnext : s.mode.isQuoted = true) : c = '"' ∨ c = '\'' := by
  cases h with
  | opens h =>
    cases h with
    | doubleQuoted h => exact .inl (CharClass.of_eq_doubleQuote_iff.1 h)
    | singleQuoted h => exact .inr (CharClass.of_eq_singleQuote_iff.1 h)
    | tab | space | number | capitalized | uncapitalized | symbol => exact nomatch hnext
  | emits h =>
    cases h with
    | @symbol s =>
      have hbetween := Mode.isBetween_after s
      cases hafter : Mode.after s <;> simp only [hafter] at hnext hbetween <;> contradiction
    | illegal | documentation => exact nomatch hnext
  | resumes h =>
    cases h with
    | binaryQuoted h | hexQuoted h | unknownQuoted h =>
      exact .inr (CharClass.of_eq_singleQuote_iff.1 h)
    | doubleQuoted | singleQuoted | doubledQuote => exact nomatch hmode
    | space | tab | signed | word | illegalInWord | digit | illegalDigit | binaryMark | hexMark =>
      exact nomatch hnext
  | @closes _ next _ _ _ h =>
    obtain ⟨hbetween, -⟩ := h.span
    cases next <;> contradiction
  | handsOver h => cases h <;> exact nomatch hnext

/-- Outside of quotes, a hash opens documentation, or first ends the token under construction. -/
theorem step_hash (hmode : mode.isQuoted = false) (hd : mode.Describes cursor)
    (hc : cursor.current? = some '#') :
    (step mode cursor '#').advance = 0 ∨ (step mode cursor '#').mode = .documentation := by
  have hlt := Cursor.position_lt_of_current? hc
  have hbreaks : ∀ p, mode.isBreakable = true → mode.pending? = some p →
      (step mode cursor '#').advance = 0 := by
    intro p hbreakable hp
    obtain ⟨next, -, hstep⟩ := step_of_breaks (c := '#') hbreakable hp
      (Nat.lt_trans (hd.start_lt hp) hlt) rfl
    rw [hstep]
  cases mode with
  | demarcated | undemarcated | documentation => exact .inr rfl
  | whitespace p => exact .inl rfl
  | symbol p | word p | number p radix => exact .inl (hbreaks p rfl rfl)
  | doubleQuoted p | singleQuoted p => exact nomatch hmode

/-- Only a doubled quote and documentation are more than one character at once. -/
theorem Transition.advance_le_one (h : Transition cursor c mode s)
    (hnext : s.mode.isQuoted = false) (hdoc : s.mode ≠ .documentation) : s.advance ≤ 1 := by
  cases h with
  | opens | handsOver => exact Nat.le_refl 1
  | emits h =>
    cases h with
    | symbol | illegal => exact Nat.le_refl 1
    | documentation => exact absurd rfl hdoc
  | resumes h =>
    obtain rfl | ⟨-, hquoted, -⟩ := h.advance_eq
    · exact Nat.le_refl 1
    · exact nomatch hquoted.symm.trans hnext
  | closes h => exact h.span.2.1

/-- A quote of a line, with no hash in front of it. -/
def LeadingQuote (code : List Char) : Prop :=
  ∃ i c, code[i]? = some c ∧ (c = '"' ∨ c = '\'') ∧ '#' ∉ code.take (i + 1)

/-- Nothing is quoted so far, and no hash has been passed except into documentation. -/
structure Unquoted (code : List Char) (mode : Mode) (cursor : Cursor) (output : Output) : Prop where
  unquoted : mode.isQuoted = false
  tokens : ∀ t ∈ output.tokens, t.category.isQuoting = false
  passed : mode = .documentation ∨ '#' ∉ code.take cursor.position

/-- A transition finds a quote, or still nothing is quoted behind it. -/
theorem Unquoted.step (h : Unquoted code mode cursor output)
    (hreach : Reaches code mode cursor output) (hc : cursor.current? = some c) :
    LeadingQuote code ∨
      Unquoted code (step mode cursor c).mode (cursor.advance (step mode cursor c).advance)
        (output ++ (step mode cursor c).output) := by
  have hd := hreach.describes
  have htransition := transition_step hd hc
  have hchar : code[cursor.position]? = some c := by
    rw [← Cursor.charAt?_of_chars hreach.chars]
    exact hc
  have hbefore : '#' ∉ code.take cursor.position :=
    h.passed.resolve_left (hd.ne_documentation hc)
  have htake : c ≠ '#' → '#' ∉ code.take (cursor.position + 1) := by
    intro hne hmem
    rw [List.take_add_one, hchar] at hmem
    rcases List.mem_append.1 hmem with hmem | hmem
    · exact hbefore hmem
    · exact hne (List.mem_singleton.1 hmem).symm
  cases hnext : (Scan.step mode cursor c).mode.isQuoted with
  | true =>
    have hquote := htransition.eq_quote h.unquoted hnext
    refine .inl ⟨cursor.position, c, hchar, hquote, htake ?_⟩
    rcases hquote with rfl | rfl <;> decide
  | false =>
    refine .inr ⟨hnext, List.forall_mem_append.2 ⟨h.tokens, fun t ht => ?_⟩, ?_⟩
    · refine eq_false_of_ne_true fun hquoting => ?_
      exact nomatch h.unquoted.symm.trans (htransition.isQuoted hd ht hquoting).1
    · refine or_iff_not_imp_left.2 fun hdoc => ?_
      by_cases hhash : c = '#'
      · subst hhash
        rwa [(step_hash h.unquoted hd hc).resolve_right hdoc, Cursor.advance_zero]
      · have hone := htransition.advance_le_one hnext hdoc
        have hle : (cursor.advance (Scan.step mode cursor c).advance).position ≤
            cursor.position + 1 := Nat.le_trans (Nat.min_le_left _ _) (by omega)
        exact fun hmem => htake hhash (List.take_subset_take_left code hle hmem)

theorem Reaches.leadingQuote (h : Reaches code mode cursor output) :
    LeadingQuote code ∨ Unquoted code mode cursor output := by
  induction h with
  | start => exact .inr ⟨rfl, fun _ ht => absurd ht List.not_mem_nil, .inr List.not_mem_nil⟩
  | step h hc ih =>
    rcases ih with hleading | hunquoted
    · exact .inl hleading
    · exact hunquoted.step h hc

/-- A line with a quoted literal has a quote in front of its first hash. -/
theorem leadingQuote_of_mem_scan {t : Token} (ht : t ∈ (scan code).tokens)
    (hquoting : t.category.isQuoting = true) : LeadingQuote code := by
  obtain ⟨mode, cursor, output, hreach, hend, -, hscan⟩ := exists_reaches_scan code
  rcases hreach.leadingQuote with hleading | hunquoted
  · exact hleading
  rw [hscan, Output.tokens_append] at ht
  rcases List.mem_append.1 ht with ht | ht
  · exact nomatch hquoting.symm.trans (hunquoted.tokens t ht)
  rcases finishes_finish hreach.describes hend with ⟨-, hempty⟩ | ⟨faults, u, hfin, heq⟩
  · rw [hempty] at ht
    exact absurd ht List.not_mem_nil
  · rw [heq] at ht
    obtain rfl := List.mem_singleton.1 ht
    exact nomatch hunquoted.unquoted.symm.trans (hfin.isQuoted hreach.describes hquoting)

end

/-! ## Literals in the code of a physical line -/

section
variable {text : List Char} {t : Token}

/-- A physical line with a quoted literal has code. -/
theorem codeOf_ne_nil (ht : t ∈ (scan text).tokens) (hquoting : t.category.isQuoting = true) :
    Layout.codeOf text ≠ [] := by
  obtain ⟨i, c, hc, hquote, hhash⟩ := leadingQuote_of_mem_scan ht hquoting
  have hlt := Layout.lt_length_codeOf hc (isBlank_of_quote hquote) hhash
  exact List.ne_nil_of_length_pos (by omega)

/-- A closed literal is a token of the code exactly if there is no hash before its end. -/
theorem mem_scan_codeOf_iff (ht : t ∈ (scan text).tokens) (hquoting : t.category.isQuoting = true)
    (hclosed : t.IsClosed text) :
    t ∈ (scan (Layout.codeOf text)).tokens ↔ '#' ∉ text.take t.stop := by
  obtain ⟨blanks, comment, htext, hblanks, hcomment⟩ := Layout.exists_codeOf_append text
  have hnone := Layout.not_mem_codeOf text
  constructor
  · intro hmem hhash
    have hstop := ((scan_tiles _).bounds t hmem).2.2
    rw [htext, List.take_append_of_le_length hstop] at hhash
    exact hnone (List.mem_of_mem_take hhash)
  · intro hhash
    have hstop := ((scan_tiles _).bounds t ht).2.2
    obtain ⟨hpos, c, hc, hquote⟩ := hclosed.exists_quote hstop
    have hlt := Layout.lt_length_codeOf hc (isBlank_of_quote hquote)
      (by rwa [Nat.sub_add_cancel hpos])
    have hwhole : t ∈ (scan (Layout.codeOf text ++ (blanks ++ comment))).tokens := by
      rw [← htext]
      exact ht
    refine mem_scan_front (fun hhead => ?_) hnone hwhole hquoting (by omega)
    cases blanks with
    | nil => exact absurd (hcomment _ hhead) (by decide)
    | cons d more =>
      obtain rfl := Option.some.inj hhead
      exact absurd (hblanks _ List.mem_cons_self) (by decide)

end

end Scan

/-- The quoted literals of a physical line get into the unit of its source text, unless they are
cut by a hash. `own` is the physical line behind its indentation, as a line of its own. -/
theorem lex_literals (id : ComponentId) (presets : Presets) (source : String) (index : Nat)
    (text : List Char) (own : Line) (t : Token)
    (htext : (Layout.physicalLines source.toList)[index]? = some text)
    (hkeeps : Layout.KeepsNumber presets.indentation source.toList index)
    (hown : own.code = String.ofList (Layout.unindented presets.indentation text))
    (ht : t ∈ own.tokenize.1) (hquoting : t.category.isQuoting = true)
    (hclosed : t.IsClosed own.code.toList) :
    ∃ unit line, SourceUnit.lex id presets source = .ok unit ∧
      unit.line? (Layout.lineNumber index) = some line ∧
        (t ∈ line.tokens ↔ '#' ∉ own.code.toList.take t.stop) := by
  have hrest : own.code.toList = Layout.unindented presets.indentation text := by
    rw [hown, String.toList_ofList]
  have hmem : t ∈ (Scan.scan own.code.toList).tokens := ht
  rw [hrest] at hmem hclosed ⊢
  have hcode := Scan.codeOf_ne_nil hmem hquoting
  obtain ⟨unit, hlex, hline⟩ :=
    SourceUnit.exists_lex_line? id presets htext (Layout.lineOf?_eq_some_iff.2 ⟨hcode, rfl⟩) hkeeps
  refine ⟨unit, _, hlex, hline, ?_⟩
  rw [Line.tokens_tokenized, Line.tokenize, String.toList_ofList]
  exact Scan.mem_scan_codeOf_iff hmem hquoting hclosed

/-- Behind four spaces, a literal in front of the one that is cut. -/
theorem lex_literals_doubled :
    (⟨1, 0, "'it''s' \"#\"", none⟩ : Line).tokenize.1 =
        [⟨.rawString, .text "it''s", 0, 7, false⟩, ⟨.whitespace, .none, 7, 8, false⟩,
          ⟨.string, .text "#", 8, 11, false⟩] ∧
      ∃ unit line, SourceUnit.lex ⟨["Demo"]⟩ ⟨.spaces 4 (by decide) (by decide), true⟩
          "f\n    'it''s' \"#\"" = .ok unit ∧ unit.line? 2 = some line ∧
        ⟨.rawString, .text "it''s", 0, 7, false⟩ ∈ line.tokens := by
  have htokens : (⟨1, 0, "'it''s' \"#\"", none⟩ : Line).tokenize.1 =
      [⟨.rawString, .text "it''s", 0, 7, false⟩, ⟨.whitespace, .none, 7, 8, false⟩,
        ⟨.string, .text "#", 8, 11, false⟩] := by cbv
  have hlength :
      (Layout.physicalLines "f\n    'it''s' \"#\"".toList).length ≤ Layout.lastNumber := by decide
  obtain ⟨unit, line, hlex, hline, hiff⟩ :=
    lex_literals ⟨["Demo"]⟩ ⟨.spaces 4 (by decide) (by decide), true⟩ "f\n    'it''s' \"#\"" 1
      "    'it''s' \"#\"".toList ⟨1, 0, "'it''s' \"#\"", none⟩
      ⟨.rawString, .text "it''s", 0, 7, false⟩ (by decide)
      (Layout.keepsNumber_of_length_le hlength 1) (by decide) (by rw [htokens]; decide) rfl
      ⟨[], '\'', "it''s".toList, .inr rfl, rfl, by decide⟩
  exact ⟨htokens, unit, line, hlex, hline, hiff.2 (by decide)⟩

/-- Every closed literal of a physical line, behind its indentation, gets into the unit. -/
def LiteralsSurvive (id : ComponentId) (presets : Presets) (source : String) : Prop :=
  ∀ unit index text (own : Line) (t : Token), SourceUnit.lex id presets source = .ok unit →
    (Layout.physicalLines source.toList)[index]? = some text →
    own.code = String.ofList (Layout.unindented presets.indentation text) →
    t ∈ own.tokenize.1 → t.category.isQuoting = true → t.IsClosed own.code.toList →
      ∃ line, unit.line? (Layout.lineNumber index) = some line ∧ t ∈ line.tokens

/-- A hash inside a literal cuts it. -/
theorem not_literalsSurvive_of_hash : ¬LiteralsSurvive ⟨[]⟩ {} "\"a#b\"" := by
  intro h
  have htext : (Layout.physicalLines "\"a#b\"".toList)[0]? = some "\"a#b\"".toList := by decide
  have hlength : (Layout.physicalLines "\"a#b\"".toList).length ≤ Layout.lastNumber := by decide
  have hown : (⟨1, 0, "\"a#b\"", none⟩ : Line).tokenize.1 =
      [⟨.string, .text "a#b", 0, 5, false⟩] := by cbv
  have hmem : ⟨.string, .text "a#b", 0, 5, false⟩ ∈
      (⟨1, 0, "\"a#b\"", none⟩ : Line).tokenize.1 := hown ▸ List.mem_cons_self
  have hclosed : (⟨.string, .text "a#b", 0, 5, false⟩ : Token).IsClosed "\"a#b\"".toList :=
    ⟨[], '"', "a#b".toList, .inl rfl, rfl, by decide⟩
  have hcode : Layout.lineOf? .tab 1 "\"a#b\"".toList = some ⟨1, 0, "\"a", none⟩ := by decide
  obtain ⟨unit, hlex, hline⟩ := SourceUnit.exists_lex_line? ⟨[]⟩ {} htext hcode
    (Layout.keepsNumber_of_length_le hlength 0)
  obtain ⟨line, hline', ht⟩ := h unit 0 _ ⟨1, 0, "\"a#b\"", none⟩ _ hlex htext rfl hmem rfl hclosed
  obtain rfl := Option.some.inj (hline.symm.trans hline')
  have hcut := (Scan.mem_scan_codeOf_iff hmem rfl hclosed).1 ht
  exact absurd hcut (by decide)

/-- A line that shares its number with the next one gives it up, and its literals with it. -/
theorem not_literalsSurvive_of_lineNumber_eq {n : Nat}
    (h : Layout.lineNumber n = Layout.lineNumber (n + 1)) :
    ¬LiteralsSurvive ⟨[]⟩ {} (String.ofList (List.replicate n '\n' ++ "'a'\nb".toList)) := by
  intro hsurvive
  have hsource : (String.ofList (List.replicate n '\n' ++ "'a'\nb".toList)).toList =
      List.replicate n '\n' ++ "'a'\nb".toList := String.toList_ofList
  have hget := fun i => Layout.getElem?_physicalLines_replicate_append n i "'a'\nb".toList
  rw [← hsource] at hget
  have hkeeps : Layout.KeepsNumber .tab
      (String.ofList (List.replicate n '\n' ++ "'a'\nb".toList)).toList (n + 1) := by
    refine Layout.keepsNumber_of_length_le_succ ?_
    rw [hsource, Layout.physicalLines_replicate_append, List.length_append, List.length_replicate]
    exact Nat.le_refl _
  have hcode : Layout.lineOf? .tab (Layout.lineNumber (n + 1)) ['b'] =
      some ⟨Layout.lineNumber (n + 1), 0, "b", none⟩ := rfl
  obtain ⟨unit, hlex, hline⟩ := SourceUnit.exists_lex_line? ⟨[]⟩ {} (hget 1) hcode hkeeps
  have hown : (⟨1, 0, "'a'", none⟩ : Line).tokenize.1 = [⟨.rawString, .text "a", 0, 3, false⟩] := by
    cbv
  obtain ⟨line, hline', ht⟩ := hsurvive unit n "'a'".toList ⟨1, 0, "'a'", none⟩ _ hlex (hget 0) rfl
    (hown ▸ List.mem_cons_self) rfl ⟨[], '\'', ['a'], .inr rfl, rfl, by decide⟩
  rw [h] at hline'
  obtain rfl := Option.some.inj (hline.symm.trans hline')
  have htokens : (Scan.scan "b".toList).tokens =
      [⟨.uncapitalizedName, .text "b", 0, 1, false⟩] := by cbv
  have hname : ⟨.rawString, .text "a", 0, 3, false⟩ ∈ (Scan.scan "b".toList).tokens := ht
  rw [htokens] at hname
  exact absurd hname (by decide)

/-- Neither all hashes nor all line numbers leave the literals of a source text alone. -/
theorem not_literalsSurvive :
    ¬LiteralsSurvive ⟨[]⟩ {} "\"a#b\"" ∧
      ¬LiteralsSurvive ⟨[]⟩ {}
        (String.ofList (List.replicate 4294967294 '\n' ++ "'a'\nb".toList)) :=
  ⟨not_literalsSurvive_of_hash, not_literalsSurvive_of_lineNumber_eq rfl⟩

end LineLexer
