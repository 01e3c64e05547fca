import LineLexer.Proofs.Boundary
import LineLexer.Proofs.Locality
import LineLexer.Proofs.NumberParts

/-!
# What a lexed unit holds

The lines of code that are cut out of a source text are clean: no newline and no hash is left in
them, they do not start with the indentation character, and they do not end in a blank. The tokens
of such a line are those of a line that is nothing but code: there is at least one, the last one is
no whitespace, none is documentation, and since a lexeme is part of the text of its token, no
newline and no hash gets into one. A tab at the start of a line of code is the only thing that is
reported as indentation with a tab, and it is left there only if the indentation is written with
spaces: `lex_content`.

* `Layout.exists_written_of_mem_linesOf`: what is known of a line of code;
* `Token.Faithful.spelling_subset`: the characters of a lexeme;
* `Scan.faultsOf_indentationWithTab`: where a tab is reported as indentation.
-/

namespace LineLexer

/-! ## Lines of code -/

namespace Layout

variable {indentation : Indentation} {source : List Char} {line : Line}

/-- Every line of code is written in a physical line of the source text. -/
theorem exists_written_of_mem_linesOf (h : line ∈ linesOf indentation source) :
    ∃ text ∈ physicalLines source, Written indentation line.level line.code.toList text := by
  obtain ⟨⟨text, index⟩, hentry, hcode⟩ := List.mem_filterMap.1 ((keepLast_sublist _).mem h)
  obtain ⟨-, -, hwritten⟩ := lineOf?_eq_some_iff_written.1 hcode
  exact ⟨text, List.mem_of_getElem? (List.mem_zipIdx_iff_getElem?.1 hentry), hwritten⟩

/-- The characters of the code stand in the physical line. -/
theorem Written.subset {level : Nat} {code text : List Char}
    (h : Written indentation level code text) : code ⊆ text := by
  obtain ⟨count, blanks, comment, rfl, -⟩ := h.parts
  intro c hc
  exact List.mem_append_right _ (List.mem_append_left _ hc)

/-- A line of code is one line. -/
theorem newline_notMem_of_mem_linesOf (h : line ∈ linesOf indentation source) :
    '\n' ∉ line.code.toList := by
  obtain ⟨text, htext, hwritten⟩ := exists_written_of_mem_linesOf h
  exact fun hmem => Text.not_mem_of_mem_fields htext (hwritten.subset hmem)

end Layout

/-! ## Lexemes -/

section
variable {code : List Char} {t : Token}

theorem Token.raw_subset (t : Token) (code : List Char) : t.raw code ⊆ code := by
  intro c hc
  exact List.mem_of_mem_take (List.mem_of_mem_drop hc)

theorem Token.spelling_subset_of_text {content : List Char}
    (hlex : t.lexeme = .text (String.ofList content)) (hcontent : content ⊆ t.raw code) :
    t.lexeme.spelling.toList ⊆ t.raw code := by
  rw [hlex]
  show (String.ofList content).toList ⊆ t.raw code
  rwa [String.toList_ofList]

theorem Token.Quotes.spelling_subset {opening : List Char} {quote : Char}
    (h : t.Quotes code opening quote) : t.lexeme.spelling.toList ⊆ t.raw code := by
  obtain ⟨content, hlex, hraw⟩ := h
  refine Token.spelling_subset_of_text hlex fun c hc => ?_
  rcases hraw with hraw | ⟨hraw, -⟩ <;> rw [hraw] <;> simp [hc]

/-- A lexeme is spelled with characters of the text that its token covers. -/
theorem Token.Faithful.spelling_subset (h : t.Faithful code) :
    t.lexeme.spelling.toList ⊆ t.raw code := by
  by_cases hplain : t.category.isReservable = true ∨ t.category = .integer
  · rw [Lexeme.spelling, h.spelling? hplain, Option.getD_some, String.toList_ofList]
    exact List.Subset.refl _
  · unfold Faithful at h
    cases hcat : t.category <;> simp only [hcat] at h hplain
    case whitespace =>
      rw [h.1]
      exact List.nil_subset _
    case binaryInteger | hexadecimalInteger =>
      obtain ⟨mark, content, -, hraw, hlex⟩ := h
      refine spelling_subset_of_text hlex ?_
      rw [hraw]
      exact List.Subset.trans (List.subset_cons_self _ _) (List.subset_cons_self _ _)
    case fraction =>
      obtain ⟨content, hraw, hlex⟩ := h
      refine spelling_subset_of_text hlex ?_
      rw [hraw]
      exact List.subset_cons_self _ _
    case repetend =>
      obtain ⟨content, hraw, -, hlex⟩ := h
      refine spelling_subset_of_text hlex fun c hc => ?_
      rcases hraw with hraw | hraw <;> rw [hraw] <;> simp [hc]
    case string => exact h.spelling_subset
    case rawString =>
      rcases h with hquotes | ⟨mark, -, hquotes⟩ <;> exact hquotes.spelling_subset
    case binary | hex =>
      obtain ⟨mark, -, hquotes⟩ := h
      exact hquotes.spelling_subset
    case documentation =>
      refine spelling_subset_of_text h.2.2 ?_
      exact List.Subset.trans (Text.trim_subset _) (List.dropWhile_sublist _).subset
    all_goals exact absurd (by decide) hplain

/-- Documentation starts with a hash. -/
theorem Token.Faithful.ne_documentation (h : t.Faithful code) (hhash : '#' ∉ code) :
    t.category ≠ .documentation := by
  intro hcat
  rw [Faithful, hcat] at h
  exact hhash (t.raw_subset code (List.mem_of_head? h.2.1))

end

namespace Scan

/-! ## The last token -/

section
variable {code : List Char} {t : Token}

/-- Behind the last character of a line that does not end in a blank, there is no whitespace. -/
theorem category_of_getLast?_scan
    (htrimmed : ∀ c, code.getLast? = some c → Text.isBlank c = false)
    (ht : (scan code).tokens.getLast? = some t) : t.category ≠ .whitespace := by
  have hmem : t ∈ (scan code).tokens := List.mem_of_getLast? ht
  have hstop : t.stop = code.length := (scan_tiles code).stop_of_getLast? ht
  intro hcat
  have hfaithful := scan_faithful code t hmem
  rw [Token.Faithful, hcat] at hfaithful
  obtain ⟨-, hne, hblank⟩ := hfaithful
  -- the text of the token is the end of the line, so it ends in a character that is not blank
  have hraw : t.raw code = code.drop t.start := by rw [Token.raw, hstop, List.take_length]
  obtain ⟨c, hc⟩ := Option.isSome_iff_exists.1 (List.getLast?_isSome.2 hne)
  have hlast : code.getLast? = some c := by
    rw [hraw, List.getLast?_drop] at hc
    split at hc
    · cases hc
    · exact hc
  rcases hblank c (List.mem_of_getLast? hc) with rfl | rfl <;>
    exact absurd (htrimmed _ hlast) (by decide)

end

/-! ## Indentation with a tab -/

section
variable {code : List Char} {cursor : Cursor} {c : Char} {mode next : Mode} {faults : List Fault}
  {t : Token} {n : Nat} {output : Output}

/-- The fault of a character at the start of a line, if it is a tab. -/
def leadingTab : Option Char → List Fault
  | some c => if c = '\t' then [.at 0 .indentationWithTab] else []
  | none => []

theorem faultsOf_of_characterFaults_eq_nil {issue : SyntaxIssue} (hissue : issue.isCharacter = true)
    (h : characterFaults faults = []) : faultsOf issue faults = [] := by
  refine faultsOf_eq_nil fun fault hfault heq => ?_
  refine List.filter_eq_nil_iff.1 h fault hfault ?_
  rw [heq]
  exact hissue

/-- A tab that opens a token is reported as indentation at the start of the line only. -/
theorem Opens.faultsOf_indentationWithTab {separated : Bool}
    (h : Opens cursor c separated faults next) :
    faultsOf .indentationWithTab faults =
      if cursor.position = 0 then leadingTab (some c) else [] := by
  cases h with
  | tab hc =>
    rw [CharClass.of_eq_tab_iff.1 hc]
    unfold tabIssue
    split
    · next hzero =>
      rw [hzero]
      rfl
    · rfl
  | space hc | number hc | capitalized hc | uncapitalized hc | doubleQuoted hc | singleQuoted hc
  | symbol hc =>
    have htab : c ≠ '\t' := by
      rintro rfl
      exact absurd hc (by decide)
    rw [leadingTab, if_neg htab, ite_self]
    refine faultsOf_eq_nil fun fault hfault heq => ?_
    first
      | exact absurd hfault List.not_mem_nil
      | exact nomatch (issue_of_mem_gapUnless hfault).symm.trans heq

theorem Emits.faultsOf_indentationWithTab (h : Emits cursor c faults t next n) :
    faultsOf .indentationWithTab faults = [] ∧ c ≠ '\t' := by
  cases h with
  | symbol hc | illegal hc | documentation hc =>
    refine ⟨rfl, ?_⟩
    rintro rfl
    exact absurd hc (by decide)

theorem Resumes.faultsOf_indentationWithTab (h : Resumes cursor c mode faults next n) :
    faultsOf .indentationWithTab faults = [] := by
  cases h with
  | @illegalDigit p radix => cases radix <;> rfl
  | space | tab | signed | word | illegalInWord | binaryQuoted | hexQuoted | unknownQuoted | digit
  | binaryMark | hexMark | doubleQuoted | singleQuoted | doubledQuote => rfl

/-- A transition reports indentation with a tab at the start of the line only. -/
theorem Transition.faultsOf_indentationWithTab {s : Step} (h : Transition cursor c mode s)
    (hd : mode.Describes cursor) :
    faultsOf .indentationWithTab s.output.faults =
      if cursor.position = 0 then leadingTab (some c) else [] := by
  -- a token under construction has started before the cursor
  have hinside : ∀ {p}, mode.pending? = some p → cursor.position ≠ 0 := by
    intro p hp
    have hlt := hd.start_lt hp
    omega
  cases h with
  | opens h => exact h.faultsOf_indentationWithTab
  | emits h =>
    obtain ⟨hfaults, htab⟩ := h.faultsOf_indentationWithTab
    rw [hfaults, leadingTab, if_neg htab, ite_self]
  | resumes h =>
    obtain ⟨p, q, hp, -⟩ := h.pending?
    rw [if_neg (hinside hp)]
    exact h.faultsOf_indentationWithTab
  | closes h =>
    obtain ⟨-, -, p, hp, -⟩ := h.span
    rw [if_neg (hinside hp)]
    exact faultsOf_of_characterFaults_eq_nil rfl h.characterFaults_eq
  | handsOver h =>
    obtain ⟨p, q, hp, -⟩ := h.span
    rw [if_neg (hinside hp)]
    exact faultsOf_of_characterFaults_eq_nil rfl h.characterFaults_eq

/-- At the start of a line no token is under construction. -/
theorem Mode.Describes.isBetween_of_start (hd : mode.Describes cursor)
    (hc : cursor.current? = some c) (hzero : cursor.position = 0) : mode.isBetween = true := by
  have hnone : mode.pending? = none := by
    refine Option.eq_none_iff_forall_ne_some.2 fun p hp => ?_
    have hlt := hd.start_lt hp
    omega
  have hdoc := hd.ne_documentation hc
  cases mode <;> first | rfl | exact absurd rfl hdoc | exact nomatch hnone

/-- In every reachable state the first character has been looked at, if the cursor has left it. -/
theorem Reaches.faultsOf_indentationWithTab (h : Reaches code mode cursor output) :
    faultsOf .indentationWithTab output.faults =
      if cursor.position = 0 then [] else leadingTab code.head? := by
  induction h with
  | start => rfl
  | @step mode cursor output c h hc ih =>
    have hd := h.describes
    have htransition := transition_step hd hc
    have hle := Cursor.position_le_position_advance cursor (Scan.step mode cursor c).advance
    rw [Output.faults_append, faultsOf, List.filter_append]
    show faultsOf _ _ ++ faultsOf _ _ = _
    rw [ih, htransition.faultsOf_indentationWithTab hd]
    by_cases hzero : cursor.position = 0
    · have hfirst : code.head? = some c := by
        rw [List.head?_eq_getElem?, ← hzero, ← Cursor.charAt?_of_chars h.chars]
        exact hc
      have hpos := htransition.advance_pos hc (hd.isBetween_of_start hc hzero)
      have hnext := Cursor.position_advance (htransition.advance_le hc)
      rw [if_pos hzero, if_pos hzero, if_neg (by omega), hfirst, List.nil_append]
    · rw [if_neg hzero, if_neg hzero, if_neg (by omega), List.append_nil]

/-- A line reports indentation with a tab exactly if it starts with one, and then once. -/
theorem faultsOf_indentationWithTab (code : List Char) :
    faultsOf .indentationWithTab (scan code).faults = leadingTab code.head? := by
  obtain ⟨mode, cursor, output, hreach, hend, -, hscan⟩ := exists_reaches_scan code
  have hfinish : faultsOf .indentationWithTab (finish mode cursor).faults = [] := by
    rcases finishes_finish hreach.describes hend with ⟨-, hempty⟩ | ⟨faults, t, hfin, heq⟩
    · rw [hempty]
      rfl
    · rw [heq]
      exact faultsOf_of_characterFaults_eq_nil rfl hfin.characterFaults_eq
  rw [hscan, Output.faults_append, faultsOf, List.filter_append]
  show faultsOf _ _ ++ faultsOf _ _ = _
  rw [hfinish, List.append_nil, hreach.faultsOf_indentationWithTab, hend, hreach.size]
  split
  · next hzero =>
    rw [List.length_eq_zero_iff.1 hzero]
    rfl
  · rfl

end

end Scan

/-! ## The unit of a source text -/

/-- Of lines with increasing numbers, one alone has the diagnostics that point into it. -/
theorem filter_isAt_tokenize {lines : List Line} {line : Line}
    (h : lines.Pairwise fun first second => first.number < second.number) (hmem : line ∈ lines) :
    (lines.flatMap (·.tokenize.2)).filter (·.isAt line.number) = line.tokenize.2 := by
  have hfind := (find?_isAt_eq_some_iff h).2 ⟨hmem, rfl⟩
  rw [filter_isAt_flatMap_tokenize, filter_isAt_eq_toList h, hfind]
  exact List.append_nil _

/-- A line of code starts with a tab only if indentation is written with spaces. -/
theorem Layout.Written.ne_tab {indentation : Indentation} {level : Nat} {code text : List Char}
    (h : Written indentation level code text) (htab : code.head? = some '\t') :
    indentation ≠ .tab := by
  rintro rfl
  exact h.unindented htab

theorem Line.filter_indentationWithTab (line : Line) :
    line.tokenize.2.filter (·.issue = SyntaxIssue.indentationWithTab.code) =
      if line.code.toList.head? = some '\t' then
        [.ofIssue .indentationWithTab (.single ⟨line.number, line.level, 0, 1⟩)]
      else [] := by
  rw [Line.filter_diagnostics, Scan.faultsOf_indentationWithTab]
  cases line.code.toList.head? with
  | none => rfl
  | some c =>
    simp only [Scan.leadingTab, Option.some_inj]
    split <;> rfl

/-- Lexing a source text succeeds. Every line of the unit has tokens, of which the last is no
whitespace; none is documentation, and no newline and no hash gets into a lexeme. Indentation with
a tab is reported for the lines that start with a tab although indentation is written with spaces,
once for each, and for no others. -/
theorem lex_content (id : ComponentId) (presets : Presets) (source : String) :
    ∃ unit, SourceUnit.lex id presets source = .ok unit ∧
      ∀ line ∈ unit.lines,
        (∃ t, line.tokens.getLast? = some t ∧ t.category ≠ .whitespace) ∧
        (∀ t ∈ line.tokens, t.category ≠ .documentation ∧
          '\n' ∉ t.lexeme.spelling.toList ∧ '#' ∉ t.lexeme.spelling.toList) ∧
        (unit.diagnosticsAt line.number).filter
            (·.issue = SyntaxIssue.indentationWithTab.code) =
          if presets.indentation ≠ .tab ∧ line.code.toList.head? = some '\t' then
            [.ofIssue .indentationWithTab (.single ⟨line.number, line.level, 0, 1⟩)]
          else [] := by
  refine ⟨_, SourceUnit.lex_eq id presets source, fun line hline => ?_⟩
  obtain ⟨line, hmem, rfl⟩ := List.mem_map.1 hline
  obtain ⟨text, -, hwritten⟩ := Layout.exists_written_of_mem_linesOf hmem
  rw [Line.tokens_tokenized]
  refine ⟨?_, fun t ht => ?_, ?_⟩
  · have hne : (Scan.scan line.code.toList).tokens ≠ [] := by
      intro hnil
      have hlength := (Scan.scan_tiles line.code.toList).eq_nil_iff.1 hnil
      exact hwritten.nonempty (List.length_eq_zero_iff.1 hlength.symm)
    obtain ⟨t, ht⟩ := Option.isSome_iff_exists.1 (List.getLast?_isSome.2 hne)
    exact ⟨t, ht, Scan.category_of_getLast?_scan hwritten.trimmed ht⟩
  · have hfaithful := Scan.scan_faithful line.code.toList t ht
    have hcode := List.Subset.trans hfaithful.spelling_subset (t.raw_subset line.code.toList)
    exact ⟨hfaithful.ne_documentation hwritten.unhashed,
      fun hnewline => Layout.newline_notMem_of_mem_linesOf hmem (hcode hnewline),
      fun hhash => hwritten.unhashed (hcode hhash)⟩
  · have hnumbers := Layout.linesOf_pairwise presets.indentation source.toList
    show (((Layout.linesOf presets.indentation source.toList).flatMap (·.tokenize.2)).filter
      (·.isAt line.number)).filter _ = _
    rw [filter_isAt_tokenize hnumbers hmem, Line.filter_indentationWithTab]
    exact if_congr ⟨fun htab => ⟨hwritten.ne_tab htab, htab⟩, And.right⟩ rfl rfl

end LineLexer
