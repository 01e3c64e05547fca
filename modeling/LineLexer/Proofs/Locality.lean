import LineLexer.Proofs.Order
import LineLexer.Proofs.Written

/-!
# Lexing is local to lines

What the unit of a source text holds of a physical line depends on the characters of that line
alone: not on the other lines, not on how many of them stand in front, and not on whether lines are
lexed in parallel. Only the number is carried along, by the line of code and by the locations of its
diagnostics, so two source texts are compared after one number has been put for the other.

* `Line.renumber`, `Diagnostic.renumber`: a line of code and a diagnostic at another number;
* `Line.tokenize_renumber`: the tokens of a line do not depend on its number, and its diagnostics
  carry it;
* `SourceUnit.exists_lex_at`: what a unit holds of one physical line, as a function of its text;
* `lex_local`: one physical line in two source texts.
-/

namespace LineLexer

/-! ## Other line numbers -/

/-- The same columns in the line with another number. -/
def Location.renumber (number : Nat) (location : Location) : Location :=
  { location with line := number }

/-- The same columns, all in the line with another number. -/
def Locations.renumber (number : Nat) : Locations → Locations
  | none => none
  | single location => single (location.renumber number)
  | pair first second => pair (first.renumber number) (second.renumber number)

/-- The same finding in the line with another number. -/
def Diagnostic.renumber (number : Nat) (d : Diagnostic) : Diagnostic :=
  { d with locations := d.locations.renumber number }

/-- A finding that points into the line with a number. -/
def Diagnostic.isAt (number : Nat) (d : Diagnostic) : Bool :=
  d.locations.toList.any (·.line == number)

/-- The same code and tokens under another number. -/
def Line.renumber (number : Nat) (line : Line) : Line :=
  { line with number }

/-- The diagnostics that point into the line with a number. -/
def SourceUnit.diagnosticsAt (unit : SourceUnit) (number : Nat) : List Diagnostic :=
  unit.diagnostics.filter (·.isAt number)

theorem Scan.Fault.diagnostic_renumber (number other level : Nat) (fault : Fault) :
    (fault.diagnostic other level).renumber number = fault.diagnostic number level := by
  obtain ⟨issue, place⟩ := fault
  cases place <;> rfl

/-- A line has the same tokens under every number, and the same diagnostics but for the number. -/
theorem Line.tokenize_renumber (number : Nat) (line : Line) :
    (line.renumber number).tokenize =
      (line.tokenize.1, line.tokenize.2.map (Diagnostic.renumber number)) := by
  simp only [Line.tokenize, Line.renumber, List.map_map, Function.comp_def,
    Scan.Fault.diagnostic_renumber]

/-- What is stored of a physical line depends on its number only in that it carries it. -/
theorem Layout.lineOf?_renumber (indentation : Indentation) (number other : Nat)
    (text : List Char) :
    (lineOf? indentation other text).map (Line.renumber number) =
      lineOf? indentation number text := by
  simp only [lineOf?]
  split <;> rfl

/-! ## The part of a unit that belongs to one line -/

/-- The diagnostics of a line of code point into it and into no other. -/
theorem Line.isAt_of_mem_tokenize {line : Line} {d : Diagnostic} (h : d ∈ line.tokenize.2)
    (number : Nat) : d.isAt number = line.isAt number := by
  obtain ⟨-, -, hin⟩ := Line.areIn_of_mem_tokenize h
  cases hlocations : d.locations with
  | none =>
    rw [hlocations] at hin
    exact hin.elim
  | single location =>
    rw [hlocations] at hin
    have hline : location.line = line.number := hin.number
    simp [Diagnostic.isAt, hlocations, Locations.toList, Line.isAt, hline]
  | pair first second =>
    rw [hlocations] at hin
    have hfirst : first.line = line.number := hin.1.number
    have hsecond : second.line = line.number := hin.2.1.number
    simp [Diagnostic.isAt, hlocations, Locations.toList, Line.isAt, hfirst, hsecond]

/-- The diagnostics that point into a line are those of the lines with its number. -/
theorem filter_isAt_flatMap_tokenize (lines : List Line) (number : Nat) :
    (lines.flatMap (·.tokenize.2)).filter (·.isAt number) =
      (lines.filter (Line.isAt number)).flatMap (·.tokenize.2) := by
  induction lines with
  | nil => rfl
  | cons line rest ih =>
    rw [List.flatMap_cons, List.filter_append, ih]
    have hisAt : ∀ d ∈ line.tokenize.2, d.isAt number = line.isAt number :=
      fun d hd => Line.isAt_of_mem_tokenize hd number
    cases hline : line.isAt number with
    | true =>
      rw [List.filter_cons_of_pos hline, List.flatMap_cons]
      congr 1
      exact List.filter_eq_self.2 fun d hd => (hisAt d hd).trans hline
    | false =>
      rw [List.filter_cons_of_neg (by simp [hline])]
      have hnone : line.tokenize.2.filter (·.isAt number) = [] :=
        List.filter_eq_nil_iff.2 fun d hd => by simp [hisAt d hd, hline]
      rw [hnone, List.nil_append]

section
variable {lines : List Line}

/-- Of lines with increasing numbers, at most one has a given number. -/
theorem filter_isAt_eq_toList
    (h : lines.Pairwise fun first second => first.number < second.number) (number : Nat) :
    lines.filter (Line.isAt number) = (lines.find? (Line.isAt number)).toList := by
  induction lines with
  | nil => rfl
  | cons line rest ih =>
    cases hline : line.isAt number with
    | true =>
      have hrest : rest.filter (Line.isAt number) = [] := by
        refine List.filter_eq_nil_iff.2 fun other hother => ?_
        have hlt : line.number < other.number := List.rel_of_pairwise_cons h hother
        rw [Line.isAt_iff] at hline ⊢
        omega
      rw [List.filter_cons_of_pos hline, List.find?_cons_of_pos hline, hrest]
      rfl
    | false =>
      have hneg : ¬line.isAt number = true := by simp [hline]
      rw [List.filter_cons_of_neg hneg, List.find?_cons_of_neg hneg]
      exact ih h.of_cons

theorem find?_isAt_eq_some_iff
    (h : lines.Pairwise fun first second => first.number < second.number) {number : Nat}
    {line : Line} :
    lines.find? (Line.isAt number) = some line ↔ line ∈ lines ∧ line.number = number := by
  rw [← Option.mem_toList, ← filter_isAt_eq_toList h, List.mem_filter, Line.isAt_iff]

end

section
variable {indentation : Indentation} {index : Nat} {text : List Char}

/-- In a source text of as many lines as there are numbers, the line that is stored under the number
of a physical line is what that line is stored as. -/
theorem Layout.find?_linesOf_eq {source : List Char}
    (hlength : (physicalLines source).length ≤ lastNumber)
    (htext : (physicalLines source)[index]? = some text) :
    (linesOf indentation source).find? (Line.isAt (index + 1)) =
      lineOf? indentation (index + 1) text := by
  refine Option.ext fun line => ?_
  rw [find?_isAt_eq_some_iff (linesOf_pairwise indentation source), mem_linesOf_iff hlength]
  constructor
  · rintro ⟨⟨index', text', htext', hline⟩, hnumber⟩
    have hnumber' : line.number = index' + 1 := (lineOf?_eq_some_iff_written.1 hline).1
    obtain rfl : index' = index := by omega
    rw [Option.some.inj (htext.symm.trans htext')]
    exact hline
  · intro hline
    exact ⟨⟨index, text, htext, hline⟩, (lineOf?_eq_some_iff_written.1 hline).1⟩

/-- Lexing a source text succeeds, and what the unit then holds of a physical line comes from the
text of that line: the line of code with its tokens, if there is one, and its diagnostics. -/
theorem SourceUnit.exists_lex_at (id : ComponentId) (presets : Presets) {source : String}
    (hlength : (Layout.physicalLines source.toList).length ≤ Layout.lastNumber)
    (htext : (Layout.physicalLines source.toList)[index]? = some text) :
    ∃ unit, lex id presets source = .ok unit ∧
      unit.line? (index + 1) =
        (Layout.lineOf? presets.indentation (index + 1) text).map Line.tokenized ∧
      unit.diagnosticsAt (index + 1) =
        (Layout.lineOf? presets.indentation (index + 1) text).toList.flatMap (·.tokenize.2) := by
  have hfind :
      (Layout.linesOf presets.indentation source.toList).find? (Line.isAt (index + 1)) =
        Layout.lineOf? presets.indentation (index + 1) text :=
    Layout.find?_linesOf_eq hlength htext
  refine ⟨_, lex_eq id presets source, ?_, ?_⟩
  · rw [← hfind]
    exact List.find?_map
  · rw [← hfind, ← filter_isAt_eq_toList (Layout.linesOf_pairwise _ _)]
    exact filter_isAt_flatMap_tokenize _ _

end

/-! ## Two source texts -/

/-- The same physical line in two source texts is stored in both units or in neither, with the same
level, code, fingerprint and tokens, and the diagnostics that point into it are the same, in order,
but for the line number. -/
theorem lex_local (id id' : ComponentId) (indentation : Indentation) (parallel parallel' : Bool)
    (source source' : String) (index index' : Nat) (text : List Char)
    (hlength : (Layout.physicalLines source.toList).length ≤ Layout.lastNumber)
    (hlength' : (Layout.physicalLines source'.toList).length ≤ Layout.lastNumber)
    (htext : (Layout.physicalLines source.toList)[index]? = some text)
    (htext' : (Layout.physicalLines source'.toList)[index']? = some text) :
    ∃ unit unit', SourceUnit.lex id ⟨indentation, parallel⟩ source = .ok unit ∧
      SourceUnit.lex id' ⟨indentation, parallel'⟩ source' = .ok unit' ∧
      ((unit.line? (index + 1)).isSome ↔ (unit'.line? (index' + 1)).isSome) ∧
      (∀ line line', unit.line? (index + 1) = some line → unit'.line? (index' + 1) = some line' →
        line.level = line'.level ∧ line.code = line'.code ∧
          line.fingerprint = line'.fingerprint ∧ line.tokens? = line'.tokens?) ∧
      (unit.diagnosticsAt (index + 1)).map (Diagnostic.renumber (index' + 1)) =
        unit'.diagnosticsAt (index' + 1) := by
  obtain ⟨unit, hlex, hline, hdiagnostics⟩ :=
    SourceUnit.exists_lex_at id ⟨indentation, parallel⟩ hlength htext
  obtain ⟨unit', hlex', hline', hdiagnostics'⟩ :=
    SourceUnit.exists_lex_at id' ⟨indentation, parallel'⟩ hlength' htext'
  refine ⟨unit, unit', hlex, hlex', ?_⟩
  -- both sides come from what is stored of the text, under either number
  rw [hline, hline', hdiagnostics, hdiagnostics',
    ← Layout.lineOf?_renumber indentation (index' + 1) (index + 1) text]
  cases Layout.lineOf? indentation (index + 1) text with
  | none =>
    refine ⟨Iff.rfl, ?_, rfl⟩
    rintro line line' ⟨⟩
  | some stored =>
    have htokenize := Line.tokenize_renumber (index' + 1) stored
    refine ⟨Iff.rfl, ?_, ?_⟩
    · rintro line line' ⟨⟩ ⟨⟩
      refine ⟨rfl, rfl, rfl, ?_⟩
      exact congrArg some (congrArg Prod.fst htokenize).symm
    · simp [htokenize]

/-- A faulty binary number behind two spaces, as the second line of one source text and the fourth
of another: both units hold it with the same tokens, and with one diagnostic about the last digit. -/
theorem lex_local_binary :
    let tokens : List Token :=
      [⟨.uncapitalizedName, .text "y", 0, 1, false⟩, ⟨.whitespace, .none, 1, 2, false⟩,
        ⟨.punctuation, .symbol .definer, 2, 3, false⟩, ⟨.whitespace, .none, 3, 4, false⟩,
        ⟨.binaryInteger, .text "12", 4, 8, true⟩]
    (Layout.physicalLines "f(x)\n  y = 0b12 # z".toList)[1]? = some "  y = 0b12 # z".toList ∧
      (Layout.physicalLines "\"a\n##\n\n  y = 0b12 # z\nb".toList)[3]? =
        some "  y = 0b12 # z".toList ∧
      ∃ unit unit',
        SourceUnit.lex ⟨["A"]⟩ ⟨.spaces 2 (by decide) (by decide), true⟩
          "f(x)\n  y = 0b12 # z" = .ok unit ∧
        SourceUnit.lex ⟨["B"]⟩ ⟨.spaces 2 (by decide) (by decide), false⟩
          "\"a\n##\n\n  y = 0b12 # z\nb" = .ok unit' ∧
        ((unit.line? 2).isSome ↔ (unit'.line? 4).isSome) ∧
        (unit.diagnosticsAt 2).map (Diagnostic.renumber 4) = unit'.diagnosticsAt 4 ∧
        unit.line? 2 = some ⟨2, 1, "y = 0b12", some tokens⟩ ∧
        (∃ line', unit'.line? 4 = some line' ∧ line'.level = 1 ∧ line'.code = "y = 0b12" ∧
          line'.tokens? = some tokens) ∧
        unit'.diagnosticsAt 4 = [.ofIssue .illegalCharacterInBinary (.single ⟨4, 1, 7, 8⟩)] := by
  intro tokens
  have htext : (Layout.physicalLines "f(x)\n  y = 0b12 # z".toList)[1]? =
      some "  y = 0b12 # z".toList := by decide
  have htext' : (Layout.physicalLines "\"a\n##\n\n  y = 0b12 # z\nb".toList)[3]? =
      some "  y = 0b12 # z".toList := by decide
  obtain ⟨unit, unit', hlex, hlex', hstored, hsame, hdiagnostics⟩ :=
    lex_local ⟨["A"]⟩ ⟨["B"]⟩ (.spaces 2 (by decide) (by decide)) true false
      "f(x)\n  y = 0b12 # z" "\"a\n##\n\n  y = 0b12 # z\nb" 1 3 "  y = 0b12 # z".toList
      (by decide) (by decide) htext htext'
  -- only the first unit is looked into, and the theorem carries over what it holds
  have hheld : (SourceUnit.lex ⟨["A"]⟩ ⟨.spaces 2 (by decide) (by decide), true⟩
      "f(x)\n  y = 0b12 # z").toOption.map
        (fun unit => (unit.line? 2, unit.diagnosticsAt 2)) =
      some (some ⟨2, 1, "y = 0b12", some tokens⟩,
        [.ofIssue .illegalCharacterInBinary (.single ⟨2, 1, 7, 8⟩)]) := by decide +kernel
  rw [hlex] at hheld
  obtain ⟨hline, hfinding⟩ := Prod.mk.inj (Option.some.inj hheld)
  obtain ⟨line', hline'⟩ : ∃ line', unit'.line? 4 = some line' :=
    Option.isSome_iff_exists.1 (hstored.1 (Option.isSome_of_eq_some hline))
  obtain ⟨hlevel, hcode, -, htokens⟩ := hsame _ line' hline hline'
  refine ⟨htext, htext', unit, unit', hlex, hlex', hstored, hdiagnostics, hline,
    ⟨line', hline', hlevel.symm, hcode.symm, htokens.symm⟩, ?_⟩
  rw [← hdiagnostics, hfinding]
  rfl

end LineLexer
