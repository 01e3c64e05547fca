import LineLexer.Proofs.Trimming
import LineLexer.SourceUnit

/-!
# The lines of a source text

A physical line behind its indentation is code, then blanks, then perhaps a comment, and it gets
into the unit exactly if there is code (`Layout.lineOf?_eq_some_iff`). The numbers of the lines
never decrease, so of several lines with one number the last is kept and found
(`SourceUnit.line?_linearize`). Attaching tokens cannot fail in a unit that comes from a source
text, and gives every line the tokens of its own code: `SourceUnit.lex_eq`.
-/

namespace LineLexer

/-- The line has a number. -/
def Line.isAt (number : Nat) (line : Line) : Bool :=
  line.number == number

theorem Line.isAt_iff {number : Nat} {line : Line} :
    line.isAt number = true ↔ line.number = number :=
  beq_iff_eq

namespace Layout

/-! ## The code of a physical line -/

/-- Behind the code stand blanks, and then a comment or nothing. -/
theorem exists_codeOf_append (text : List Char) :
    ∃ blanks comment, text = codeOf text ++ (blanks ++ comment) ∧
      (∀ c ∈ blanks, Text.isBlank c = true) ∧ ∀ c, comment.head? = some c → c = '#' := by
  obtain ⟨blanks, hblanks, hblank⟩ := Text.exists_trimEnd_append (text.takeWhile (· ≠ '#'))
  refine ⟨blanks, text.dropWhile (· ≠ '#'), ?_, hblank, fun c hc => ?_⟩
  · rw [codeOf, ← List.append_assoc, ← hblanks, List.takeWhile_append_dropWhile]
  · have hstop := List.head?_dropWhile_not (· ≠ '#') text
    rw [hc] at hstop
    simpa using hstop

theorem not_mem_codeOf (text : List Char) : '#' ∉ codeOf text := by
  obtain ⟨blanks, hblanks, -⟩ := Text.exists_trimEnd_append (text.takeWhile (· ≠ '#'))
  intro hmem
  have htake : '#' ∈ text.takeWhile (· ≠ '#') := by
    rw [hblanks]
    exact List.mem_append_left _ hmem
  simpa using List.mem_takeWhile_imp htake

/-- A block comment has no code in front of its first hash. -/
theorem codeOf_of_isBlockComment {text : List Char} (h : isBlockComment text = true) :
    codeOf text = [] := by
  obtain ⟨more, rfl⟩ := List.isPrefixOf_iff_prefix.1 h
  rfl

/-- A character that is not blank and has no hash up to it is part of the code. -/
theorem lt_length_codeOf {text : List Char} {i : Nat} {c : Char} (hc : text[i]? = some c)
    (hblank : Text.isBlank c = false) (hhash : '#' ∉ text.take (i + 1)) :
    i < (codeOf text).length := by
  obtain ⟨blanks, comment, htext, hblanks, hcomment⟩ := exists_codeOf_append text
  generalize codeOf text = code at htext ⊢
  subst htext
  refine Nat.lt_of_not_le fun hle => ?_
  rw [List.getElem?_append_right hle] at hc
  by_cases hlt : i - code.length < blanks.length
  · rw [List.getElem?_append_left hlt] at hc
    rw [hblanks c (List.mem_of_getElem? hc)] at hblank
    exact Bool.noConfusion hblank
  · -- the comment starts no later than at the character
    cases comment with
    | nil =>
      rw [List.append_nil, List.getElem?_eq_none (by omega)] at hc
      exact nomatch hc
    | cons d more =>
      obtain rfl : d = '#' := hcomment d rfl
      refine hhash (List.mem_of_getElem? (i := code.length + blanks.length) ?_)
      rw [List.getElem?_take_of_lt (by omega), List.getElem?_append_right (by omega),
        Nat.add_sub_cancel_left, List.getElem?_append_right (Nat.le_refl _), Nat.sub_self]
      rfl

section
variable {indentation : Indentation} {number : Nat} {text : List Char} {line : Line}

/-- A physical line is stored exactly if there is code on it. -/
theorem lineOf?_eq_some_iff :
    lineOf? indentation number text = some line ↔
      codeOf (unindented indentation text) ≠ [] ∧
        line = ⟨number, level indentation text,
          String.ofList (codeOf (unindented indentation text)), none⟩ := by
  simp only [lineOf?]
  split
  · next h =>
    have hnil : codeOf (unindented indentation text) = [] := by
      rcases (Bool.or_eq_true _ _).mp h with hblock | hempty
      · exact codeOf_of_isBlockComment hblock
      · exact List.isEmpty_iff.1 hempty
    simp [hnil]
  · next h =>
    have hne : codeOf (unindented indentation text) ≠ [] := by
      simp only [Bool.or_eq_true, List.isEmpty_iff, not_or] at h
      exact h.2
    rw [Option.some_inj, eq_comm]
    exact (and_iff_right hne).symm

end

/-! ## Lines with one number -/

theorem keepLast_sublist (lines : List Line) : (keepLast lines).Sublist lines := by
  fun_induction keepLast lines with
  | case1 | case2 => exact List.Sublist.refl _
  | case3 line next rest heq ih => exact ih.cons line
  | case4 line next rest hne ih => exact ih.cons_cons line

/-- A line whose number differs from the next one comes before all that follow. -/
theorem number_lt_of_ne {line next : Line} {rest : List Line}
    (h : (line :: next :: rest).Pairwise fun first second => first.number ≤ second.number)
    (hne : line.number ≠ next.number) : ∀ other ∈ next :: rest, line.number < other.number := by
  have hnext : line.number < next.number :=
    Nat.lt_of_le_of_ne (List.rel_of_pairwise_cons h List.mem_cons_self) hne
  intro other hother
  rcases List.mem_cons.1 hother with rfl | hother
  · exact hnext
  · exact Nat.lt_of_lt_of_le hnext (List.rel_of_pairwise_cons h.of_cons hother)

/-- The lines that are kept have different numbers. -/
theorem keepLast_pairwise {lines : List Line}
    (h : lines.Pairwise fun first second => first.number ≤ second.number) :
    (keepLast lines).Pairwise fun first second => first.number < second.number := by
  fun_induction keepLast lines with
  | case1 => exact .nil
  | case2 line => exact List.pairwise_singleton _ line
  | case3 line next rest heq ih => exact ih h.of_cons
  | case4 line next rest hne ih =>
    refine .cons (fun other hother => ?_) (ih h.of_cons)
    exact number_lt_of_ne h hne other ((keepLast_sublist _).mem hother)

/-- What is found under a number is the last line that has it. -/
theorem find?_keepLast {lines : List Line}
    (h : lines.Pairwise fun first second => first.number ≤ second.number) (number : Nat) :
    (keepLast lines).find? (Line.isAt number) = (lines.filter (Line.isAt number)).getLast? := by
  fun_induction keepLast lines with
  | case1 => rfl
  | case2 line => cases hn : line.isAt number <;> simp [hn]
  | case3 line next rest heq ih =>
    rw [ih h.of_cons]
    have hsame : line.isAt number = next.isAt number := by rw [Line.isAt, Line.isAt, heq]
    cases hn : next.isAt number <;> simp [hsame, hn]
  | case4 line next rest hne ih =>
    have hlt := number_lt_of_ne h hne
    by_cases hn : line.isAt number = true
    · have hnone : (next :: rest).filter (Line.isAt number) = [] := by
        refine List.filter_eq_nil_iff.2 fun other hother => ?_
        have hother := hlt other hother
        rw [Line.isAt_iff] at hn ⊢
        omega
      rw [List.find?_cons_of_pos hn, List.filter_cons_of_pos hn, hnone]
      rfl
    · rw [List.find?_cons_of_neg hn, List.filter_cons_of_neg hn]
      exact ih h.of_cons

/-! ## The lines of a source text -/

/-- The line of a physical line at an index, if it has code. -/
def codeLine? (indentation : Indentation) (entry : List Char × Nat) : Option Line :=
  lineOf? indentation (lineNumber entry.2) entry.1

/-- The lines with code, before those with one number are thinned out. -/
def codeLines (indentation : Indentation) (source : List Char) : List Line :=
  (physicalLines source).zipIdx.filterMap (codeLine? indentation)

theorem linesOf_eq (indentation : Indentation) (source : List Char) :
    linesOf indentation source = keepLast (codeLines indentation source) := rfl

/-- No later physical line with code takes over the number of the one with an index. -/
def KeepsNumber (indentation : Indentation) (source : List Char) (index : Nat) : Prop :=
  ∀ later other, index < later → lineNumber later = lineNumber index →
    (physicalLines source)[later]? = some other →
      lineOf? indentation (lineNumber later) other = none

theorem lineNumber_mono {first second : Nat} (h : first ≤ second) :
    lineNumber first ≤ lineNumber second := by
  unfold lineNumber
  omega

/-- Newlines in front of a source text are empty lines in front of its lines. -/
theorem physicalLines_replicate_append (n : Nat) (source : List Char) :
    physicalLines (List.replicate n '\n' ++ source) =
      List.replicate n [] ++ physicalLines source := by
  induction n with
  | zero => rfl
  | succ n ih =>
    rw [List.replicate_succ, List.cons_append, List.replicate_succ, List.cons_append, ← ih,
      physicalLines, Text.fields_cons, if_pos rfl]
    rfl

theorem getElem?_physicalLines_replicate_append (n i : Nat) (source : List Char) :
    (physicalLines (List.replicate n '\n' ++ source))[n + i]? = (physicalLines source)[i]? := by
  rw [physicalLines_replicate_append, List.getElem?_append_right (by simp), List.length_replicate,
    Nat.add_sub_cancel_left]

section
variable {indentation : Indentation} {source : List Char} {index : Nat} {text : List Char}
  {line : Line}

/-- In a source text of as many lines as there are numbers, no number is used twice. -/
theorem keepsNumber_of_length_le (h : (physicalLines source).length ≤ lastNumber) (index : Nat) :
    KeepsNumber indentation source index := by
  intro later other hlt hnumber hother
  have hlength := (List.getElem?_eq_some_iff.1 hother).1
  unfold lineNumber at hnumber
  omega

/-- There is no line behind the last one. -/
theorem keepsNumber_of_length_le_succ (h : (physicalLines source).length ≤ index + 1) :
    KeepsNumber indentation source index := by
  intro later other hlt _ hother
  have hlength := (List.getElem?_eq_some_iff.1 hother).1
  omega

/-- Lines are stored in the order of their numbers. -/
theorem codeLines_pairwise (indentation : Indentation) (source : List Char) :
    (codeLines indentation source).Pairwise fun first second => first.number ≤ second.number := by
  have hindices : (physicalLines source).zipIdx.Pairwise fun first second =>
      first.2 < second.2 := by
    rw [← List.pairwise_map (f := Prod.snd) (R := (· < ·)), List.zipIdx_map_snd]
    exact List.pairwise_lt_range'
  refine List.pairwise_filterMap.2 (hindices.imp fun hlt first hfirst second hsecond => ?_)
  rw [(lineOf?_eq_some_iff.1 hfirst).2, (lineOf?_eq_some_iff.1 hsecond).2]
  exact lineNumber_mono (Nat.le_of_lt hlt)

/-- The lines of a source text have increasing numbers. -/
theorem linesOf_pairwise (indentation : Indentation) (source : List Char) :
    (linesOf indentation source).Pairwise fun first second => first.number < second.number :=
  keepLast_pairwise (codeLines_pairwise indentation source)

/-- A line comes from the source text without tokens. -/
theorem tokens?_of_mem_linesOf (h : line ∈ linesOf indentation source) : line.tokens? = none := by
  obtain ⟨entry, -, hentry⟩ := List.mem_filterMap.1 ((keepLast_sublist _).mem h)
  rw [(lineOf?_eq_some_iff.1 hentry).2]

/-- Behind a line that keeps its number there is none with that number. -/
theorem filter_drop_codeLines (h : KeepsNumber indentation source index) :
    (((physicalLines source).zipIdx.drop (index + 1)).filterMap
      (codeLine? indentation)).filter (Line.isAt (lineNumber index)) = [] := by
  refine List.filter_eq_nil_iff.2 fun line hline => ?_
  obtain ⟨entry, hmem, hentry⟩ := List.mem_filterMap.1 hline
  obtain ⟨i, hi⟩ := List.mem_iff_getElem?.1 hmem
  rw [List.getElem?_drop, List.getElem?_zipIdx, Option.map_eq_some_iff] at hi
  obtain ⟨other, hother, rfl⟩ := hi
  rw [Line.isAt_iff, (lineOf?_eq_some_iff.1 hentry).2]
  intro hnumber
  have hnone := h _ other (by omega) hnumber (by rwa [Nat.zero_add])
  exact nomatch hentry.symm.trans hnone

/-- A physical line with code is found under its number, unless that is taken over. -/
theorem find?_linesOf (htext : (physicalLines source)[index]? = some text)
    (hline : lineOf? indentation (lineNumber index) text = some line)
    (hkeeps : KeepsNumber indentation source index) :
    (linesOf indentation source).find? (Line.isAt (lineNumber index)) = some line := by
  have hat : line.isAt (lineNumber index) = true := by
    rw [Line.isAt_iff, (lineOf?_eq_some_iff.1 hline).2]
  have hentry : (physicalLines source).zipIdx[index]? = some (text, index) := by
    rw [List.getElem?_zipIdx, htext, Nat.zero_add]
    rfl
  obtain ⟨hlt, hget⟩ := List.getElem?_eq_some_iff.1 hentry
  have hsplit : codeLines indentation source =
      ((physicalLines source).zipIdx.take index).filterMap (codeLine? indentation) ++
        line :: ((physicalLines source).zipIdx.drop (index + 1)).filterMap
          (codeLine? indentation) := by
    have hcode : codeLine? indentation (text, index) = some line := hline
    rw [codeLines]
    conv_lhs => rw [← List.take_append_drop index (physicalLines source).zipIdx]
    rw [List.drop_eq_getElem_cons hlt, hget, List.filterMap_append,
      List.filterMap_cons_some hcode]
  rw [linesOf_eq, find?_keepLast (codeLines_pairwise indentation source), hsplit,
    List.filter_append, List.filter_cons_of_pos hat, filter_drop_codeLines hkeeps,
    List.getLast?_concat]

end

end Layout

/-! ## Attaching tokens -/

/-- A line with the tokens of its own code. -/
def Line.tokenized (line : Line) : Line :=
  { line with tokens? := some line.tokenize.1 }

@[simp] theorem Line.tokens_tokenized (line : Line) : line.tokenized.tokens = line.tokenize.1 := rfl

namespace SourceUnit

theorem lexLines_eq (parallel : Bool) (lines : List Line) :
    lexLines parallel lines = lines.map Line.tokenize := by
  have hsequential : lexLines false lines = lines.map Line.tokenize :=
    List.map_congr_left fun line _ => line.tokenizeInto_nil
  cases parallel with
  | false => exact hsequential
  | true => rw [lexLines_parallel, hsequential]

/-- Lines without tokens take the tokens of their own code. -/
theorem mapM_attach {lines : List Line} (h : ∀ line ∈ lines, line.tokens? = none) :
    (lines.zip (lines.map Line.tokenize)).mapM (fun entry => entry.1.attach entry.2.1) =
      (.ok (lines.map Line.tokenized) : Except TokenizeError (List Line)) := by
  induction lines with
  | nil => rfl
  | cons line rest ih =>
    have hattach : line.attach line.tokenize.1 = .ok line.tokenized := by
      rw [Line.attach, if_neg (by simp [Line.isTokenized, h line List.mem_cons_self])]
      rfl
    have hrest := ih fun other hother => h other (List.mem_cons_of_mem _ hother)
    simp only [List.map_cons, List.zip_cons_cons, List.mapM_cons, hattach, hrest]
    rfl

/-- The first attempt to attach tokens succeeds, in parallel or not. -/
theorem tokenize_eq {unit : SourceUnit} (hstage : unit.stage = .linearized)
    (h : ∀ line ∈ unit.lines, line.tokens? = none) (parallel : Bool) :
    unit.tokenize parallel =
      .ok ⟨unit.id, unit.lines.map Line.tokenized,
        unit.diagnostics ++ unit.lines.flatMap (·.tokenize.2), .tokenized⟩ := by
  have hfirst : Stage.linearized ≠ .tokenized := Stage.noConfusion
  simp only [tokenize, hstage, lexLines_eq, if_neg hfirst, mapM_attach h, List.flatMap_map]
  rfl

/-- Lexing a source text succeeds: every line of code gets the tokens of its code, and the
diagnostics are those of the lines, one line after the other. -/
theorem lex_eq (id : ComponentId) (presets : Presets) (source : String) :
    lex id presets source =
      .ok ⟨id, (Layout.linesOf presets.indentation source.toList).map Line.tokenized,
        (Layout.linesOf presets.indentation source.toList).flatMap (·.tokenize.2),
        .tokenized⟩ :=
  tokenize_eq rfl (fun _ => Layout.tokens?_of_mem_linesOf) presets.parallel

/-- A physical line with code is in the unit, with its tokens, unless its number is taken over. -/
theorem exists_lex_line? (id : ComponentId) (presets : Presets) {source : String} {index : Nat}
    {text : List Char} {line : Line}
    (htext : (Layout.physicalLines source.toList)[index]? = some text)
    (hline : Layout.lineOf? presets.indentation (Layout.lineNumber index) text = some line)
    (hkeeps : Layout.KeepsNumber presets.indentation source.toList index) :
    ∃ unit, lex id presets source = .ok unit ∧
      unit.line? (Layout.lineNumber index) = some line.tokenized := by
  refine ⟨_, lex_eq id presets source, ?_⟩
  have hfind := Layout.find?_linesOf htext hline hkeeps
  show ((Layout.linesOf presets.indentation source.toList).map Line.tokenized).find?
    (Line.isAt (Layout.lineNumber index)) = some line.tokenized
  rw [List.find?_map]
  exact congrArg (Option.map Line.tokenized) hfind

end SourceUnit

end LineLexer
