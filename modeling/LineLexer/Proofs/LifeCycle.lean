import LineLexer.Proofs.Layout
import Mathlib.Data.List.Forall2

/-!
# The life cycle of a source unit

A unit is tokenized once. `SourceUnit.tokenize` gives the tokenized unit or an error, and does not
say what becomes of a unit when attaching tokens fails on the way. Here a call changes its unit in
place, line after line, and whatever has been done before a failure stays; `tokenize_eq_inPlace`
says that the two give the same answer and, where it is no error, the same unit. That a failure on
the way does not happen is then a fact about the units there are (`tokenize_lifeCycle`).

* `SourceUnit.tokenizeInPlace`: a call, with the unit that it leaves behind;
* `SourceUnit.tokenizeAll`: a sequence of calls on one unit;
* `SourceUnit.IsNew`: the units that calls start from.
-/

namespace LineLexer

/-! ## Calls in place -/

/-- How far attaching tokens to lines has come. -/
structure Attachment where
  /-- The lines, those with new tokens and those that were not reached. -/
  lines : List Line
  /-- The diagnostics of the lines with new tokens. -/
  diagnostics : List Diagnostic
  /-- Whether a line has refused its tokens. -/
  answer : Except TokenizeError Unit

/-- Attaches tokens to one line after the other, up to the first line that refuses them. -/
def Attachment.ofEntries : List (Line × List Token × List Diagnostic) → Attachment
  | [] => ⟨[], [], .ok ()⟩
  | (line, tokens, diagnostics) :: rest =>
    match line.attach tokens with
    | .error e => ⟨line :: rest.map (·.1), [], .error e⟩
    | .ok attached =>
      let after := ofEntries rest
      ⟨attached :: after.lines, diagnostics ++ after.diagnostics, after.answer⟩

namespace SourceUnit

/-- A call that changes the unit in place: the unit that it leaves behind, and its answer. -/
def tokenizeInPlace (unit : SourceUnit) (parallel : Bool) :
    SourceUnit × Except TokenizeError Unit :=
  if unit.stage = .tokenized then (unit, .error (.unitAlreadyTokenized unit.id.text))
  else
    let attachment := Attachment.ofEntries (unit.lines.zip (lexLines parallel unit.lines))
    let changed :=
      { unit with
        lines := attachment.lines, diagnostics := unit.diagnostics ++ attachment.diagnostics }
    match attachment.answer with
    | .error e => (changed, .error e)
    | .ok () => ({ changed with stage := .tokenized }, .ok ())

/-- A sequence of calls on one unit, each with its setting for parallel lexing: the unit that they
leave behind, and their answers. -/
def tokenizeAll (unit : SourceUnit) : List Bool → SourceUnit × List (Except TokenizeError Unit)
  | [] => (unit, [])
  | parallel :: rest =>
    let (after, answer) := unit.tokenizeInPlace parallel
    let (last, answers) := after.tokenizeAll rest
    (last, answer :: answers)

/-- A unit that no call has changed yet: one without lines, or the lines of a source text. -/
inductive IsNew : SourceUnit → Prop
  | empty (id : ComponentId) : IsNew (.empty id)
  | linearize (id : ComponentId) (indentation : Indentation) (source : String) :
      IsNew (.linearize id indentation source)

end SourceUnit

/-! ## Calls in place and calls that give a new unit -/

/-- Attaching tokens in place fails exactly if it fails without the lines being kept. -/
theorem Attachment.mapM_attach_eq (entries : List (Line × List Token × List Diagnostic)) :
    entries.mapM (fun entry => entry.1.attach entry.2.1) =
      (ofEntries entries).answer.map fun _ => (ofEntries entries).lines := by
  induction entries with
  | nil => rfl
  | cons entry rest ih =>
    obtain ⟨line, tokens, diagnostics⟩ := entry
    rw [List.mapM_cons, ih, ofEntries]
    cases line.attach tokens with
    | error e => rfl
    | ok attached => cases (ofEntries rest).answer <;> rfl

/-- Where no line refuses its tokens, all diagnostics are collected. -/
theorem Attachment.diagnostics_eq {entries : List (Line × List Token × List Diagnostic)}
    (h : (ofEntries entries).answer = .ok ()) :
    (ofEntries entries).diagnostics = entries.flatMap (·.2.2) := by
  induction entries with
  | nil => rfl
  | cons entry rest ih =>
    obtain ⟨line, tokens, diagnostics⟩ := entry
    rw [ofEntries] at h ⊢
    cases hattach : line.attach tokens with
    | error e => simp [hattach] at h
    | ok attached =>
      simp only [hattach] at h
      rw [List.flatMap_cons, ← ih h]

/-- Lines without tokens accept the tokens of their own code. -/
theorem Attachment.ofEntries_eq {lines : List Line} (h : ∀ line ∈ lines, line.tokens? = none) :
    ofEntries (lines.zip (lines.map Line.tokenize)) =
      ⟨lines.map Line.tokenized, lines.flatMap (·.tokenize.2), .ok ()⟩ := by
  induction lines with
  | nil => rfl
  | cons line rest ih =>
    have hattach : line.attach line.tokenize.1 = .ok line.tokenized := by
      rw [Line.attach, if_neg (by simp [Line.isTokenized, h line List.mem_cons_self])]
      rfl
    have hrest := ih fun other hother => h other (List.mem_cons_of_mem _ hother)
    rw [List.map_cons, List.zip_cons_cons, ofEntries]
    simp only [hattach, hrest, List.map_cons, List.flatMap_cons]

namespace SourceUnit

/-- A call answers in place as it does where it gives a new unit, and then leaves that unit. -/
theorem tokenize_eq_inPlace (unit : SourceUnit) (parallel : Bool) :
    unit.tokenize parallel =
      (unit.tokenizeInPlace parallel).2.map fun _ => (unit.tokenizeInPlace parallel).1 := by
  unfold tokenize tokenizeInPlace
  split
  · rfl
  · have hmap := Attachment.mapM_attach_eq (unit.lines.zip (lexLines parallel unit.lines))
    cases hanswer :
        (Attachment.ofEntries (unit.lines.zip (lexLines parallel unit.lines))).answer with
    | error e =>
      rw [hanswer] at hmap
      simp only [hmap, hanswer]
      rfl
    | ok _ =>
      have hdiagnostics := Attachment.diagnostics_eq hanswer
      have hresults : (unit.lines.zip (lexLines parallel unit.lines)).flatMap (·.2.2) =
          (lexLines parallel unit.lines).flatMap (·.2) := by
        rw [lexLines_eq, ← List.flatMap_map Prod.snd, List.map_snd_zip (by simp)]
      rw [hanswer] at hmap
      simp only [hmap, hanswer, hdiagnostics, hresults]
      rfl

/-! ## Sequences of calls -/

section
variable {unit : SourceUnit}

theorem IsNew.stage (h : unit.IsNew) : unit.stage = .linearized := by
  cases h <;> rfl

theorem IsNew.diagnostics (h : unit.IsNew) : unit.diagnostics = [] := by
  cases h <;> rfl

theorem IsNew.tokens? (h : unit.IsNew) : ∀ line ∈ unit.lines, line.tokens? = none := by
  cases h with
  | empty id => exact fun _ hline => absurd hline List.not_mem_nil
  | linearize id indentation source => exact fun _ => Layout.tokens?_of_mem_linesOf

theorem IsNew.pairwise (h : unit.IsNew) :
    unit.lines.Pairwise fun first second => first.number < second.number := by
  cases h with
  | empty id => exact .nil
  | linearize id indentation source => exact Layout.linesOf_pairwise indentation source.toList

/-- The unit with the tokens and diagnostics of its lines. -/
def tokenized (unit : SourceUnit) : SourceUnit :=
  ⟨unit.id, unit.lines.map Line.tokenized, unit.lines.flatMap (·.tokenize.2), .tokenized⟩

/-- The first call succeeds. -/
theorem IsNew.tokenizeInPlace_eq (h : unit.IsNew) (parallel : Bool) :
    unit.tokenizeInPlace parallel = (unit.tokenized, .ok ()) := by
  have hfirst : Stage.linearized ≠ .tokenized := Stage.noConfusion
  simp only [tokenizeInPlace, h.stage, if_neg hfirst, lexLines_eq,
    Attachment.ofEntries_eq h.tokens?, h.diagnostics, List.nil_append]
  rfl

/-- Calls on a tokenized unit fail and leave it as it is. -/
theorem tokenizeAll_of_tokenized (h : unit.stage = .tokenized) (calls : List Bool) :
    unit.tokenizeAll calls =
      (unit, calls.map fun _ => .error (.unitAlreadyTokenized unit.id.text)) := by
  induction calls with
  | nil => rfl
  | cons parallel rest ih =>
    have hcall : unit.tokenizeInPlace parallel =
        (unit, .error (.unitAlreadyTokenized unit.id.text)) := if_pos h
    simp only [tokenizeAll, hcall, ih, List.map_cons]

end

end SourceUnit

/-- A new unit is linearized, and has neither tokens nor diagnostics. Of a sequence of calls the
first succeeds and does all the work: every line keeps its number, level, code and fingerprint and
gets the tokens of its code, and the diagnostics are those of the lines, by increasing numbers. The
calls after it fail, and leave the unit as it is. -/
theorem tokenize_lifeCycle {unit : SourceUnit} (h : unit.IsNew) :
    (unit.stage = .linearized ∧ (∀ line ∈ unit.lines, line.tokens? = none) ∧
        unit.diagnostics = []) ∧
      ∃ after : SourceUnit,
        (∀ parallel, unit.tokenize parallel = .ok after) ∧
        (∀ parallel rest, unit.tokenizeAll (parallel :: rest) =
          (after, .ok () :: rest.map fun _ => .error (.unitAlreadyTokenized unit.id.text))) ∧
        after.id = unit.id ∧
        List.Forall₂
          (fun line line' : Line => line'.number = line.number ∧ line'.level = line.level ∧
            line'.code = line.code ∧ line'.fingerprint = line.fingerprint ∧
            line'.tokens? = some line.tokenize.1)
          unit.lines after.lines ∧
        unit.lines.Pairwise (fun first second => first.number < second.number) ∧
        after.diagnostics = unit.lines.flatMap (·.tokenize.2) ∧ after.stage = .tokenized := by
  refine ⟨⟨h.stage, h.tokens?, h.diagnostics⟩, unit.tokenized, fun parallel => ?_,
    fun parallel rest => ?_, rfl, ?_, h.pairwise, rfl, rfl⟩
  · rw [SourceUnit.tokenize_eq_inPlace, h.tokenizeInPlace_eq]
    rfl
  · have htokenized : unit.tokenized.stage = .tokenized := rfl
    have hrest := SourceUnit.tokenizeAll_of_tokenized htokenized rest
    simp only [SourceUnit.tokenizeAll, h.tokenizeInPlace_eq, hrest]
    rfl
  · refine List.forall₂_map_right_iff.2 (List.forall₂_same.2 fun line _ => ?_)
    exact ⟨rfl, rfl, rfl, rfl, rfl⟩

/-- Two calls on a unit with a faulty binary number in its first line and lexemes that touch in its
third. -/
theorem tokenize_lifeCycle_twice :
    (SourceUnit.linearize ⟨["A", "B"]⟩ .tab "0b12\n\n\tc?d").IsNew ∧
      ∃ after,
        (SourceUnit.linearize ⟨["A", "B"]⟩ .tab "0b12\n\n\tc?d").tokenizeAll [true, false] =
          (after, [.ok (), .error (.unitAlreadyTokenized "A.B")]) ∧
        after.stage = .tokenized ∧ after.lines.length = 2 ∧
        after.diagnostics = [.ofIssue .illegalCharacterInBinary (.single ⟨1, 0, 3, 4⟩),
          .ofIssue .missingDemarcation (.pair ⟨3, 1, 1, 2⟩ ⟨3, 1, 2, 3⟩)] := by
  have hnew : (SourceUnit.linearize ⟨["A", "B"]⟩ .tab "0b12\n\n\tc?d").IsNew :=
    .linearize ⟨["A", "B"]⟩ .tab "0b12\n\n\tc?d"
  obtain ⟨-, after, -, hcalls, -, hlines, -, hdiagnostics, hstage⟩ := tokenize_lifeCycle hnew
  refine ⟨hnew, after, hcalls true [false], hstage, ?_, ?_⟩
  · rw [← hlines.length_eq]
    decide
  · simp only [hdiagnostics, Line.tokenize]
    cbv

end LineLexer
