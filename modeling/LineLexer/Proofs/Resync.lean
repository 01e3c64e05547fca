import LineLexer.Proofs.Fault
import LineLexer.Proofs.Window

/-!
# Resynchronisation at spaces

A space ends a symbol, a word or a number just as the end of the line does, and what follows a
run of spaces is scanned as if it stood at the start of a line. So the scan of a line falls
apart at its spaces: `tokenize_spaces`. Nothing that goes wrong in front of a space has an
effect behind it.

The scan of the front part and that of the back part are both windows on the scan of the
whole, the first with what closes it put out by the space.
-/

namespace LineLexer
namespace Scan

/-! ## Leaving a token -/

/-- The classes that end a symbol, a word or a number without a fault. -/
def breaks : CharClass → Bool
  | .space | .tab | .hash => true
  | _ => false

/-- The modes that such a character leaves, between two lexemes included. -/
def Mode.isBreakable : Mode → Bool
  | .demarcated | .undemarcated | .symbol _ | .word _ | .number _ _ => true
  | _ => false

theorem Mode.isBreakable_of {mode : Mode} (hquoted : mode.isQuoted = false)
    (hdocumentation : mode ≠ .documentation) (hblank : ∀ p, mode ≠ .whitespace p) :
    mode.isBreakable = true := by
  cases mode with
  | demarcated | undemarcated | symbol _ | word _ | number _ _ => rfl
  | doubleQuoted _ | singleQuoted _ => exact nomatch hquoted
  | documentation => exact absurd rfl hdocumentation
  | whitespace p => exact absurd rfl (hblank p)

section
variable {cursor : Cursor} {mode : Mode} {c : Char} {p : Pending}

theorem leaveSymbol_eq (cursor : Cursor) (p : Pending) :
    ∃ next, next.isBetween = true ∧
      leaveSymbol cursor p = ⟨(Mode.symbol p).closeAt cursor cursor.position, next, 0⟩ :=
  ⟨_, isBetween_closeSymbol cursor p cursor.position, rfl⟩

/-- A token that is left is closed as at the end of the line, with the cursor as the end. -/
theorem step_of_breaks (hmode : mode.isBreakable = true) (hp : mode.pending? = some p)
    (hstart : p.start < cursor.size) (hc : breaks (CharClass.of c) = true) :
    ∃ next, next.isBetween = true ∧
      step mode cursor c = ⟨mode.closeAt cursor cursor.position, next, 0⟩ := by
  cases mode <;> simp only [Mode.isBreakable, Bool.false_eq_true] at hmode
  case demarcated | undemarcated => exact nomatch hp
  case symbol q =>
    obtain rfl : q = p := Option.some.inj hp
    obtain ⟨first, hfirst⟩ := Cursor.exists_charAt? hstart
    have hleave : step (.symbol q) cursor c = leaveSymbol cursor q := by
      simp only [step, resumeSymbol, hfirst]
      cases hk : CharClass.of c <;> rw [hk] at hc <;> first | rfl | exact absurd hc (by decide)
    rw [hleave]
    exact leaveSymbol_eq cursor q
  case word q =>
    refine ⟨.undemarcated, rfl, ?_⟩
    simp only [step, resumeWord]
    cases hk : CharClass.of c <;> rw [hk] at hc <;> first | rfl | exact absurd hc (by decide)
  case number q radix =>
    refine ⟨.undemarcated, rfl, ?_⟩
    simp only [step, resumeNumber]
    cases hk : CharClass.of c <;> rw [hk] at hc <;> first | rfl | exact absurd hc (by decide)

/-- A character that breaks leaves what is to come to a mode between two lexemes. -/
theorem rest_of_breaks (hmode : mode.isBreakable = true)
    (hstart : ∀ p, mode.pending? = some p → p.start < cursor.size)
    (hc : cursor.current? = some c) (hbreaks : breaks (CharClass.of c) = true) :
    ∃ next, next.isBetween = true ∧
      rest mode cursor = mode.closeAt cursor cursor.position ++ rest next cursor := by
  cases hp : mode.pending? with
  | none =>
    cases mode with
    | demarcated | undemarcated => exact ⟨_, rfl, rfl⟩
    | symbol q | word q | number q radix => exact nomatch hp
    | whitespace q | doubleQuoted q | singleQuoted q | documentation =>
      exact absurd hmode Bool.false_ne_true
  | some p =>
    obtain ⟨next, hnext, hstep⟩ := step_of_breaks hmode hp (hstart p hp) hbreaks
    refine ⟨next, hnext, ?_⟩
    rw [rest_of_some hc, hstep, Cursor.advance_zero]

/-! ## Runs of spaces -/

theorem rest_between_space (hmode : mode.isBetween = true) (hc : cursor.current? = some ' ') :
    rest mode cursor =
      rest (.whitespace (.opened .whitespace cursor.position)) (cursor.advance 1) := by
  rw [rest_of_some hc]
  cases mode <;> first | rfl | exact absurd hmode Bool.false_ne_true

/-- Spaces only make a run of whitespace longer. -/
theorem rest_whitespace_spaces (n : Nat)
    (h : ∀ i < n, cursor.charAt? (cursor.position + i) = some ' ') :
    rest (.whitespace p) cursor = rest (.whitespace p) (cursor.advance n) := by
  induction n generalizing cursor with
  | zero => rw [Cursor.advance_zero]
  | succ n ih =>
    have hc : cursor.current? = some ' ' := h 0 (Nat.succ_pos n)
    have hrest : rest (.whitespace p) cursor = rest (.whitespace p) (cursor.advance 1) :=
      rest_of_some hc
    rw [hrest, ih, Cursor.advance_advance, Nat.add_comm]
    intro i hi
    rw [Cursor.position_advance_one hc, Cursor.charAt?_advance, Nat.add_assoc, Nat.add_comm 1 i]
    exact h (i + 1) (by omega)

/-- A run of whitespace is put out where something else follows, or nothing. -/
theorem rest_whitespace_end (h : ∀ c, cursor.current? = some c → c ≠ ' ' ∧ c ≠ '\t') :
    rest (.whitespace p) cursor = p.close cursor cursor.position ++ rest .demarcated cursor := by
  cases hc : cursor.current? with
  | none =>
    rw [rest_of_none hc, rest_of_none hc, Cursor.position_eq_of_current?_eq_none hc]
    exact (Output.append_empty _).symm
  | some c =>
    obtain ⟨hspace, htab⟩ := h c hc
    have hstep : step (.whitespace p) cursor c =
        ⟨p.close cursor cursor.position, .demarcated, 0⟩ := by
      simp only [step, resumeWhitespace]
      split
      case h_1 hk => exact absurd (CharClass.of_eq_space_iff.1 hk) hspace
      case h_2 hk => exact absurd (CharClass.of_eq_tab_iff.1 hk) htab
      case h_3 => rfl
    rw [rest_of_some hc, hstep, Cursor.advance_zero]

/-- A run of spaces puts out what is open, then itself, and leaves a separation behind it. -/
theorem rest_spaces {n : Nat} (hmode : mode.isBreakable = true)
    (hstart : ∀ p, mode.pending? = some p → p.start < cursor.size)
    (hspace : ∀ i < n + 1, cursor.charAt? (cursor.position + i) = some ' ')
    (hend : ∀ c, cursor.charAt? (cursor.position + (n + 1)) = some c → c ≠ ' ' ∧ c ≠ '\t') :
    rest mode cursor = mode.closeAt cursor cursor.position ++
      (.token ⟨.whitespace, .none, cursor.position, cursor.position + (n + 1), false⟩ ++
        rest .demarcated (cursor.advance (n + 1))) := by
  have hc : cursor.current? = some ' ' := hspace 0 (Nat.succ_pos n)
  have hfirst := Cursor.position_advance_one hc
  have hlast : cursor.position + (n + 1) ≤ cursor.size :=
    Cursor.lt_size_of_charAt? (hspace n (Nat.lt_succ_self n))
  have hposition := Cursor.position_advance hlast
  obtain ⟨next, hnext, hrest⟩ := rest_of_breaks hmode hstart hc rfl
  -- the first space opens the run, the others make it longer
  have hlonger :
      ∀ i < n, (cursor.advance 1).charAt? ((cursor.advance 1).position + i) = some ' ' := by
    intro i hi
    rw [Cursor.charAt?_advance, hfirst, Nat.add_assoc, Nat.add_comm 1 i]
    exact hspace (i + 1) (by omega)
  have hends : ∀ c, (cursor.advance (n + 1)).current? = some c → c ≠ ' ' ∧ c ≠ '\t' := by
    rw [Cursor.current?, hposition, Cursor.charAt?_advance]
    exact hend
  rw [hrest, rest_between_space hnext hc, rest_whitespace_spaces n hlonger, Cursor.advance_advance,
    Nat.add_comm 1 n, rest_whitespace_end hends, hposition]
  rfl

end

/-! ## A line in three parts -/

section
variable {a b : List Char} {k : Nat}

/-- What closes the mode at the end of a line closes it behind that line in a longer one. -/
theorem closeAt_front {front back : List Char} (h : back.head? ≠ some '\'') (mode : Mode) :
    mode.closeAt ((Cursor.ofList (front ++ back)).advance front.length) front.length =
      finish mode (Cursor.ofList front) := by
  have hle : front.length ≤ (Cursor.ofList front).size :=
    Nat.le_of_eq (Cursor.size_ofList front).symm
  have hshift := Mode.closeAt_shift (window_front h) mode hle
  rw [Mode.shift_zero, Output.shift_zero, Nat.add_zero] at hshift
  rw [finish_eq_closeAt, Cursor.size_ofList, ← hshift]
  cases mode <;> rfl

/-- The token under construction at the end of a line starts inside it. -/
theorem start_lt_of_runLine {code : List Char} {p : Pending}
    (h : (runLine code).mode.pending? = some p) : p.start < code.length := by
  obtain ⟨mode, cursor, output, hreach, hend, hmode, -⟩ := exists_reaches_scan code
  rw [← hmode] at h
  have hlt := hreach.describes.start_lt h
  have hsize := hreach.size
  omega

/-- The characters of a line that has spaces between two parts. -/
theorem getElem?_spaces {i : Nat} (hi : i < k) :
    (a ++ (List.replicate k ' ' ++ b))[a.length + i]? = some ' ' := by
  rw [List.getElem?_append_right (Nat.le_add_right _ _), Nat.add_sub_cancel_left,
    List.getElem?_append_left (by rwa [List.length_replicate]), List.getElem?_replicate_of_lt hi]

theorem getElem?_behind_spaces :
    (a ++ (List.replicate k ' ' ++ b))[a.length + k]? = b.head? := by
  rw [List.getElem?_append_right (Nat.le_add_right _ _), Nat.add_sub_cancel_left,
    List.getElem?_append_right (Nat.le_of_eq List.length_replicate), List.length_replicate,
    Nat.sub_self, List.head?_eq_getElem?]

/-- The scan of a line falls apart at a run of spaces. -/
theorem scan_spaces (hk : 0 < k) (hmode : (runLine a).mode.isBreakable = true)
    (hb : ∀ c, b.head? = some c → c ≠ ' ' ∧ c ≠ '\t') :
    scan (a ++ (List.replicate k ' ' ++ b)) =
      scan a ++ (.token ⟨.whitespace, .none, a.length, a.length + k, false⟩ ++
        (scan b).shift (a.length + k)) := by
  obtain ⟨n, rfl⟩ : ∃ n, k = n + 1 := ⟨k - 1, by omega⟩
  let cursor := (Cursor.ofList (a ++ (List.replicate (n + 1) ' ' ++ b))).advance a.length
  have hhead : (List.replicate (n + 1) ' ' ++ b).head? ≠ some '\'' := by
    rw [List.replicate_succ, List.cons_append, List.head?_cons]
    decide
  have hdoc : (runLine a).mode ≠ .documentation := by
    intro hdoc
    rw [hdoc] at hmode
    exact absurd hmode Bool.false_ne_true
  have hsize : cursor.size = a.length + (n + 1 + b.length) := by
    rw [Cursor.size_advance, Cursor.size_ofList, List.length_append, List.length_append,
      List.length_replicate]
  have hposition : cursor.position = a.length := by
    refine Cursor.position_advance_ofList ?_
    rw [List.length_append]
    exact Nat.le_add_right _ _
  have hspaces : rest (runLine a).mode cursor =
      (runLine a).mode.closeAt cursor cursor.position ++
        (.token ⟨.whitespace, .none, cursor.position, cursor.position + (n + 1), false⟩ ++
          rest .demarcated (cursor.advance (n + 1))) := by
    refine rest_spaces hmode (fun p hp => ?_) (fun i hi => ?_) (fun c hc => ?_)
    · have hlt := start_lt_of_runLine hp
      omega
    · rw [hposition, Cursor.charAt?_advance, Cursor.charAt?_ofList, getElem?_spaces hi]
    · rw [hposition, Cursor.charAt?_advance, Cursor.charAt?_ofList, getElem?_behind_spaces] at hc
      exact hb c hc
  have hback : rest .demarcated (cursor.advance (n + 1)) = (scan b).shift (a.length + (n + 1)) := by
    have hrest : rest .demarcated ((Cursor.ofList (a ++ List.replicate (n + 1) ' ' ++ b)).advance
        (a ++ List.replicate (n + 1) ' ').length) =
        (scan b).shift (a ++ List.replicate (n + 1) ' ').length :=
      rest_back (.inr fun htab => (hb _ htab).2 rfl)
    rw [List.length_append, List.length_replicate, List.append_assoc] at hrest
    rw [Cursor.advance_advance]
    exact hrest
  rw [scan_append hhead hdoc, hspaces, hposition, hback, closeAt_front hhead, ← Output.append_assoc]
  rfl

end

/-! ## Diagnostics -/

section
variable {code : List Char} {issue : SyntaxIssue} {column : Nat}

/-- There is a column before every boundary that is reported. -/
theorem scan_gap_pos (hgap : (⟨issue, .gap column⟩ : Fault) ∈ (scan code).faults) :
    0 < column :=
  ((scan_placed code _ hgap).of_gap rfl).1

/-- A fault further right has the diagnostic further right, if there is a column before it. -/
theorem Fault.diagnostic_shift {fault : Fault} {number level d : Nat}
    (h : ∀ column, fault.place = .gap column → 0 < column) :
    (fault.shift d).diagnostic number level = (fault.diagnostic number level).shift d := by
  obtain ⟨issue, place⟩ := fault
  cases place with
  | span start stop => rfl
  | gap column =>
    have hpos := h column rfl
    have hbefore : column + d - 1 = column - 1 + d := by omega
    have hbehind : column + d + 1 = column + 1 + d := by omega
    simp only [Fault.shift, Place.shift, Fault.diagnostic, Place.locations, hbefore, hbehind]
    rfl

end

end Scan

/-- The same line with another code. -/
def Line.withCode (line : Line) (code : String) : Line :=
  { line with code }

/-- A line that is cut at spaces is tokenized part by part, whatever goes wrong in the parts. The
first one must not end in a quoted literal, in documentation or in whitespace, and the second one
not start with whitespace. -/
theorem tokenize_spaces (line : Line) (a b : String) (k : Nat) (hk : 0 < k)
    (hquoted : (Scan.runLine a.toList).mode.isQuoted = false)
    (hdocumentation : (Scan.runLine a.toList).mode ≠ .documentation)
    (hblank : ∀ p, (Scan.runLine a.toList).mode ≠ .whitespace p)
    (hb : ∀ c, b.toList.head? = some c → c ≠ ' ' ∧ c ≠ '\t') :
    (line.withCode (a ++ String.ofList (List.replicate k ' ') ++ b)).tokenize =
      ((line.withCode a).tokenize.1 ++ [⟨.whitespace, .none, a.length, a.length + k, false⟩] ++
          (line.withCode b).tokenize.1.map (·.shift (a.length + k)),
        (line.withCode a).tokenize.2 ++
          (line.withCode b).tokenize.2.map (·.shift (a.length + k))) := by
  have hmode := Scan.Mode.isBreakable_of hquoted hdocumentation hblank
  have hscan := Scan.scan_spaces hk hmode hb
  have hcode : (a ++ String.ofList (List.replicate k ' ') ++ b).toList =
      a.toList ++ (List.replicate k ' ' ++ b.toList) := by
    rw [String.toList_append, String.toList_append, String.toList_ofList, List.append_assoc]
  have hdiagnostics : ∀ fault ∈ (Scan.scan b.toList).faults,
      (fault.shift (a.length + k)).diagnostic line.number line.level =
        (fault.diagnostic line.number line.level).shift (a.length + k) := by
    intro fault hfault
    refine Scan.Fault.diagnostic_shift fun column hplace => ?_
    obtain ⟨issue, place⟩ := fault
    subst hplace
    exact Scan.scan_gap_pos hfault
  have hlength : a.toList.length = a.length := String.length_toList
  rw [hlength] at hscan
  simp only [Line.tokenize, Line.withCode, hcode, hscan]
  refine Prod.ext ?_ ?_
  · exact (List.append_assoc _ _ _).symm
  · have hfaults := List.map_congr_left hdiagnostics
    show List.map _ ((Scan.scan a.toList).faults ++
      (Scan.scan b.toList).faults.map (·.shift (a.length + k))) = _
    rw [List.map_append, List.map_map, List.map_map]
    exact congrArg _ hfaults

/-- An unclosed repetend and an illegal tab, with two spaces between them. -/
theorem tokenize_spaces_faulty :
    (⟨2, 1, "1.(3  x\t", none⟩ : Line).tokenize =
      ((⟨2, 1, "1.(3", none⟩ : Line).tokenize.1 ++ [⟨.whitespace, .none, 4, 6, false⟩] ++
          (⟨2, 1, "x\t", none⟩ : Line).tokenize.1.map (·.shift 6),
        (⟨2, 1, "1.(3", none⟩ : Line).tokenize.2 ++
          (⟨2, 1, "x\t", none⟩ : Line).tokenize.2.map (·.shift 6)) := by
  have hmode :
      (Scan.runLine "1.(3".toList).mode = .number ⟨.repetend, 2, 1, false⟩ .decimal := by cbv
  refine tokenize_spaces ⟨2, 1, "", none⟩ "1.(3" "x\t" 2 (by decide) ?_ ?_ ?_ ?_
  · rw [hmode]
    rfl
  · rw [hmode]
    exact Scan.Mode.noConfusion
  · rw [hmode]
    exact fun _ => Scan.Mode.noConfusion
  · intro c hc
    obtain rfl : 'x' = c := Option.some.inj hc
    decide

end LineLexer
