import LineLexer.Proofs.Layout

/-!
# How a line of code is written

A physical line is written as indentation, then code, then blanks, then perhaps a comment.
`Layout.Written` says so without looking for any of these parts, and leaves no choice: there is
at most one level and one code that a physical line is written from, and the unit of a source
text holds exactly these (`linearize_lines`).

* `Layout.Written`: a physical line that is written from a level and a code;
* `Layout.written_iff`: the parts that are taken off a physical line are those it is written from;
* `Layout.mem_linesOf_iff`: a line of code comes from the physical line with its number.
-/

namespace LineLexer

namespace Layout

/-- The level that a number of indentation characters stands for. -/
def Indents (indentation : Indentation) (count level : Nat) : Prop :=
  match indentation with
  | .tab => level = count
  | .spaces width _ _ => level = count / width

/-- A physical line that is written from a level and a code: indentation, the code, blanks, and then
nothing or a comment. -/
structure Written (indentation : Indentation) (level : Nat) (code text : List Char) : Prop where
  /-- There is code. -/
  nonempty : code ≠ []
  /-- A hash is no part of the code. -/
  unhashed : '#' ∉ code
  /-- Indentation is no part of the code. -/
  unindented : code.head? ≠ some indentation.character
  /-- The blanks behind the code are no part of it. -/
  trimmed : ∀ c, code.getLast? = some c → Text.isBlank c = false
  /-- The parts make up the line. -/
  parts : ∃ count blanks comment,
    text = List.replicate count indentation.character ++ (code ++ (blanks ++ comment)) ∧
      Indents indentation count level ∧ (∀ c ∈ blanks, Text.isBlank c = true) ∧
      (comment = [] ∨ comment.head? = some '#')

/-- The physical lines of a source text are what stands between its newlines. -/
structure Splits (source : List Char) (texts : List (List Char)) : Prop where
  /-- There is a first line. -/
  nonempty : texts ≠ []
  /-- No newline is left in a line. -/
  unbroken : ∀ text ∈ texts, '\n' ∉ text
  /-- With newlines between them, the lines make up the source text. -/
  join : Text.join '\n' texts = source

theorem splits_physicalLines (source : List Char) : Splits source (physicalLines source) :=
  ⟨Text.fields_ne_nil '\n' source, fun _ => Text.not_mem_of_mem_fields,
    Text.join_fields '\n' source⟩

theorem indents_iff {indentation : Indentation} {count level : Nat} :
    Indents indentation count level ↔ level = levelOf indentation count := by
  cases indentation <;> exact Iff.rfl

/-! ## Taking the parts off -/

section
variable {indentation : Indentation} {count level : Nat} {code text blanks comment rest : List Char}

/-- Indentation ends where something else begins. -/
theorem takeWhile_indented (h : rest.head? ≠ some indentation.character) :
    (List.replicate count indentation.character ++ rest).takeWhile (· = indentation.character) =
      List.replicate count indentation.character := by
  have hrest : rest.takeWhile (· = indentation.character) = [] := by
    cases rest with
    | nil => rfl
    | cons c rest =>
      have hc : c ≠ indentation.character := by simpa using h
      rw [List.takeWhile_cons_of_neg (by simpa using hc)]
  rw [List.takeWhile_append_of_pos (by simp), hrest, List.append_nil]

theorem unindented_indented (h : rest.head? ≠ some indentation.character) :
    unindented indentation (List.replicate count indentation.character ++ rest) = rest := by
  have hsplit := List.takeWhile_append_dropWhile (p := (· = indentation.character))
    (l := List.replicate count indentation.character ++ rest)
  rw [takeWhile_indented h] at hsplit
  exact List.append_cancel_left hsplit

theorem level_indented (h : rest.head? ≠ some indentation.character) :
    Layout.level indentation (List.replicate count indentation.character ++ rest) =
      levelOf indentation count := by
  rw [Layout.level, takeWhile_indented h, List.length_replicate]

/-- The code in front of a comment is found again. -/
theorem codeOf_append (hhash : '#' ∉ code)
    (htrimmed : ∀ c, code.getLast? = some c → Text.isBlank c = false)
    (hblanks : ∀ c ∈ blanks, Text.isBlank c = true)
    (hcomment : comment = [] ∨ comment.head? = some '#') :
    codeOf (code ++ (blanks ++ comment)) = code := by
  have hfront : ∀ c ∈ code ++ blanks, c ≠ '#' := by
    intro c hc heq
    rw [heq] at hc
    rcases List.mem_append.1 hc with hc | hc
    · exact hhash hc
    · exact absurd (hblanks '#' hc) (by decide)
  have hback : comment.takeWhile (· ≠ '#') = [] := by
    rcases hcomment with rfl | hhead
    · rfl
    · obtain ⟨more, rfl⟩ := List.head?_eq_some_iff.1 hhead
      rfl
  unfold codeOf
  rw [← List.append_assoc, List.takeWhile_append_of_pos (by simpa using hfront), hback,
    List.append_nil, Text.trimEnd_append htrimmed hblanks]

/-- A physical line is written from the code and the level that are found on it, and from no
others. -/
theorem written_iff :
    Written indentation level code text ↔
      codeOf (unindented indentation text) ≠ [] ∧
        code = codeOf (unindented indentation text) ∧ level = Layout.level indentation text := by
  constructor
  · rintro ⟨hne, hhash, hhead, htrimmed, count, blanks, comment, rfl, hlevel, hblanks, hcomment⟩
    have hrest : (code ++ (blanks ++ comment)).head? ≠ some indentation.character := by
      rwa [List.head?_append_of_ne_nil code hne]
    rw [unindented_indented hrest, level_indented hrest,
      codeOf_append hhash htrimmed hblanks hcomment]
    exact ⟨hne, rfl, indents_iff.1 hlevel⟩
  · rintro ⟨hne, rfl, rfl⟩
    obtain ⟨blanks, comment, hrest, hblanks, hcomment⟩ :=
      exists_codeOf_append (unindented indentation text)
    have hhead : (unindented indentation text).head? ≠ some indentation.character := by
      intro hhead
      have hstop := List.head?_dropWhile_not (· = indentation.character) text
      unfold unindented at hhead
      rw [hhead] at hstop
      simp at hstop
    have hindent : text.takeWhile (· = indentation.character) =
        List.replicate (text.takeWhile (· = indentation.character)).length
          indentation.character := by
      refine List.eq_replicate_of_mem fun c hc => ?_
      simpa using List.mem_takeWhile_imp hc
    refine ⟨hne, not_mem_codeOf _, ?_, fun c => Text.isBlank_of_getLast?_trimEnd, _, blanks,
      comment, ?_, indents_iff.2 rfl, hblanks, ?_⟩
    · rw [hrest, List.head?_append_of_ne_nil _ hne] at hhead
      exact hhead
    · rw [← hrest, ← hindent, unindented, List.takeWhile_append_dropWhile]
    · cases comment with
      | nil => exact .inl rfl
      | cons c more => exact .inr (congrArg some (hcomment c rfl))

end

/-! ## Lines with their numbers -/

section
variable {indentation : Indentation} {source : List Char} {line : Line}

/-- In a source text of as many lines as there are numbers, the lines of code are those of the
physical lines with their numbers. -/
theorem mem_linesOf_iff (h : (physicalLines source).length ≤ lastNumber) :
    line ∈ linesOf indentation source ↔
      ∃ index text, (physicalLines source)[index]? = some text ∧
        lineOf? indentation (index + 1) text = some line := by
  have hnumber : ∀ {index text}, (physicalLines source)[index]? = some text →
      lineNumber index = index + 1 := by
    intro index text htext
    have hlt := (List.getElem?_eq_some_iff.1 htext).1
    unfold lineNumber
    omega
  constructor
  · intro hline
    obtain ⟨⟨text, index⟩, hentry, hcode⟩ :=
      List.mem_filterMap.1 ((keepLast_sublist _).mem hline)
    have htext := List.mem_zipIdx_iff_getElem?.1 hentry
    refine ⟨index, text, htext, ?_⟩
    rw [← hnumber htext]
    exact hcode
  · rintro ⟨index, text, htext, hcode⟩
    rw [← hnumber htext] at hcode
    exact List.mem_of_find?_eq_some (find?_linesOf htext hcode (keepsNumber_of_length_le h index))

/-- What is stored of a physical line is what it is written from. -/
theorem lineOf?_eq_some_iff_written {number : Nat} {text : List Char} :
    lineOf? indentation number text = some line ↔
      line.number = number ∧ line.tokens? = none ∧
        Written indentation line.level line.code.toList text := by
  obtain ⟨number', level, code, tokens?⟩ := line
  rw [lineOf?_eq_some_iff, written_iff, Line.mk.injEq, ← String.toList_inj, String.toList_ofList]
  constructor
  · rintro ⟨hne, rfl, rfl, hcode, rfl⟩
    exact ⟨rfl, rfl, hne, hcode, rfl⟩
  · rintro ⟨rfl, rfl, hne, hcode, rfl⟩
    exact ⟨hne, rfl, rfl, hcode, rfl⟩

end

end Layout

/-- The unit of a source text holds a line of code exactly if the physical line with its number is
written from it; the lines are stored by increasing numbers and without tokens. -/
theorem linearize_lines (id : ComponentId) (indentation : Indentation) (source : String)
    (hlength : (Layout.physicalLines source.toList).length ≤ Layout.lastNumber) :
    Layout.Splits source.toList (Layout.physicalLines source.toList) ∧
      (∀ number level code,
        (∃ line ∈ (SourceUnit.linearize id indentation source).lines,
          line.number = number ∧ line.level = level ∧ line.code = code) ↔
        ∃ text, 0 < number ∧ (Layout.physicalLines source.toList)[number - 1]? = some text ∧
          Layout.Written indentation level code.toList text) ∧
      (SourceUnit.linearize id indentation source).lines.Pairwise
        (fun first second => first.number < second.number) ∧
      ∀ line ∈ (SourceUnit.linearize id indentation source).lines, line.tokens? = none := by
  refine ⟨Layout.splits_physicalLines source.toList, fun number level code => ?_,
    Layout.linesOf_pairwise indentation source.toList, fun _ => Layout.tokens?_of_mem_linesOf⟩
  constructor
  · rintro ⟨line, hline, rfl, rfl, rfl⟩
    obtain ⟨index, text, htext, hcode⟩ := (Layout.mem_linesOf_iff hlength).1 hline
    obtain ⟨hnumber, -, hwritten⟩ := Layout.lineOf?_eq_some_iff_written.1 hcode
    rw [hnumber]
    exact ⟨text, Nat.succ_pos index, htext, hwritten⟩
  · rintro ⟨text, hpos, htext, hwritten⟩
    have hcode : Layout.lineOf? indentation (number - 1 + 1) text =
        some ⟨number, level, code, none⟩ :=
      Layout.lineOf?_eq_some_iff_written.2 ⟨(Nat.sub_add_cancel hpos).symm, rfl, hwritten⟩
    exact ⟨_, (Layout.mem_linesOf_iff hlength).2 ⟨_, text, htext, hcode⟩, rfl, rfl, rfl⟩

/-- Six spaces at a width of four, with blanks and a comment behind the code. -/
theorem linearize_lines_comment :
    (Layout.physicalLines "f\n##\n      x = 1 \t# y".toList).length ≤ Layout.lastNumber ∧
      ∃ line ∈ (SourceUnit.linearize ⟨["Demo"]⟩ (.spaces 4 (by decide) (by decide))
          "f\n##\n      x = 1 \t# y").lines,
        line.number = 3 ∧ line.level = 1 ∧ line.code = "x = 1" := by
  have hlength :
      (Layout.physicalLines "f\n##\n      x = 1 \t# y".toList).length ≤ Layout.lastNumber := by
    decide
  have hlines := (linearize_lines ⟨["Demo"]⟩ (.spaces 4 (by decide) (by decide))
    "f\n##\n      x = 1 \t# y" hlength).2.1 3 1 "x = 1"
  have htrimmed : ∀ c, "x = 1".toList.getLast? = some c → Text.isBlank c = false := by
    intro c hc
    obtain rfl : '1' = c := Option.some.inj hc
    decide
  have hblanks : ∀ c ∈ [' ', '\t'], Text.isBlank c = true :=
    List.forall_mem_cons.2 ⟨by decide, List.forall_mem_singleton.2 (by decide)⟩
  refine ⟨hlength, hlines.2 ⟨"      x = 1 \t# y".toList, by decide, by decide, ?_⟩⟩
  exact ⟨by decide, by decide, by decide, htrimmed, 6, [' ', '\t'], "# y".toList, rfl, rfl, hblanks,
    .inr rfl⟩

end LineLexer
