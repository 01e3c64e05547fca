import LineLexer.Proofs.Invariant

/-!
# Where faults are reported

A fault stands at a place of the kind that its issue calls for, and inside the line:
`scan_placed`. Boundaries are looked at more closely, since two kinds of transitions report
them: `Transition.gaps_eq` says which, and that no transition reports more than one.
-/

namespace LineLexer.Scan

/-! ## Places inside the line -/

/-- A fault stands at a place inside a line, and the place is of the kind that the issue calls for:
a boundary with characters on both sides, a single character, or a run of characters. -/
def Fault.Placed (size : Nat) (fault : Fault) : Prop :=
  match fault.issue with
  | .missingDemarcation | .missingDemarcationFromNumber | .missingDemarcationFromString =>
    ∃ column, 0 < column ∧ column < size ∧ fault.place = .gap column
  | .indentationWithTab | .illegalTab | .illegalCharacter | .illegalCharacterInWord
  | .illegalCharacterInNumber | .illegalCharacterInBinary | .illegalCharacterInHex =>
    ∃ column < size, fault.place = .span column (column + 1)
  | .invalidNumber | .missingDecimalPoint | .uncompletedRepetend | .unknownStringPrefix =>
    ∃ start stop, start < stop ∧ stop ≤ size ∧ fault.place = .span start stop
  | _ => False

theorem Fault.Placed.of_gap {size column : Nat} {fault : Fault} (h : fault.Placed size)
    (hplace : fault.place = .gap column) : 0 < column ∧ column < size := by
  unfold Placed at h
  rw [hplace] at h
  split at h
  case h_1 | h_2 | h_3 =>
    obtain ⟨column', hpos, hlt, heq⟩ := h
    injection heq with heq
    omega
  case h_4 | h_5 | h_6 | h_7 | h_8 | h_9 | h_10 =>
    obtain ⟨column', -, heq⟩ := h
    exact nomatch heq
  case h_11 | h_12 | h_13 | h_14 =>
    obtain ⟨start, stop, -, -, heq⟩ := h
    exact nomatch heq
  case h_15 => exact h.elim

theorem Fault.Placed.of_span {size start stop : Nat} {fault : Fault} (h : fault.Placed size)
    (hplace : fault.place = .span start stop) : start < stop ∧ stop ≤ size := by
  unfold Placed at h
  rw [hplace] at h
  split at h
  case h_1 | h_2 | h_3 =>
    obtain ⟨column, -, -, heq⟩ := h
    exact nomatch heq
  case h_4 | h_5 | h_6 | h_7 | h_8 | h_9 | h_10 =>
    obtain ⟨column, hlt, heq⟩ := h
    injection heq with hstart hstop
    omega
  case h_11 | h_12 | h_13 | h_14 =>
    obtain ⟨start', stop', hlt, hle, heq⟩ := h
    injection heq with hstart hstop
    omega
  case h_15 => exact h.elim

section
variable {code : List Char} {cursor : Cursor} {c : Char} {mode next : Mode} {faults : List Fault}
  {t : Token} {n : Nat}

theorem placed_closingFaults {p : Pending} {stop size : Nat} (hlt : p.start < stop)
    (hle : stop ≤ size) : ∀ fault ∈ closingFaults p stop, fault.Placed size := by
  unfold closingFaults
  split
  · exact List.forall_mem_singleton.2 ⟨p.start, stop, hlt, hle, rfl⟩
  · exact fun _ hmem => absurd hmem List.not_mem_nil

theorem Opens.placed {separated : Bool} (h : Opens cursor c separated faults next)
    (hd : (Mode.between separated).Describes cursor) (hc : cursor.current? = some c) :
    ∀ fault ∈ faults, fault.Placed cursor.size := by
  have hlt := Cursor.position_lt_of_current? hc
  cases h with
  | tab =>
    refine List.forall_mem_singleton.2 ?_
    unfold tabIssue
    split <;> exact ⟨cursor.position, hlt, rfl⟩
  | space | symbol => exact fun _ hmem => absurd hmem List.not_mem_nil
  | number | capitalized | uncapitalized | doubleQuoted | singleQuoted =>
    cases separated with
    | true => exact fun _ hmem => absurd hmem List.not_mem_nil
    | false => exact List.forall_mem_singleton.2 ⟨cursor.position, hd, hlt, rfl⟩

theorem Resumes.placed (h : Resumes cursor c mode faults next n) (hd : mode.Describes cursor)
    (hc : cursor.current? = some c) : ∀ fault ∈ faults, fault.Placed cursor.size := by
  have hlt := Cursor.position_lt_of_current? hc
  cases h with
  | tab | illegalInWord => exact List.forall_mem_singleton.2 ⟨cursor.position, hlt, rfl⟩
  | @unknownQuoted p mark =>
    have hstart : p.start < cursor.position := hd.start_lt rfl
    refine List.forall_mem_singleton.2 ⟨p.start, p.start + 1, ?_, ?_, rfl⟩ <;> omega
  | @illegalDigit p radix =>
    refine List.forall_mem_singleton.2 ?_
    cases radix <;> exact ⟨cursor.position, hlt, rfl⟩
  | space | signed | word | binaryQuoted | hexQuoted | digit | binaryMark | hexMark | doubleQuoted
  | singleQuoted | doubledQuote => exact fun _ hmem => absurd hmem List.not_mem_nil

theorem Closes.placed (h : Closes cursor c mode faults t next n) (hd : mode.Describes cursor)
    (hc : cursor.current? = some c) : ∀ fault ∈ faults, fault.Placed cursor.size := by
  have hlt := Cursor.position_lt_of_current? hc
  cases h with
  | @numberGap p radix h =>
    have hstart : p.start < cursor.position := hd.start_lt rfl
    refine List.forall_mem_cons.2 ⟨⟨cursor.position, ?_, hlt, rfl⟩, placed_closingFaults hstart ?_⟩
      <;> omega
  | number => exact placed_closingFaults (hd.start_lt rfl) (Nat.le_of_lt hlt)
  | whitespace | pair | symbol | predicate | word | range | repetend | doubleQuoted
  | singleQuoted => exact fun _ hmem => absurd hmem List.not_mem_nil

theorem HandsOver.placed (h : HandsOver cursor c mode faults t next) (hd : mode.Describes cursor)
    (hc : cursor.current? = some c) : ∀ fault ∈ faults, fault.Placed cursor.size := by
  have hlt := Cursor.position_lt_of_current? hc
  cases h with
  | fraction | repetend => exact fun _ hmem => absurd hmem List.not_mem_nil
  | @secondPoint p radix =>
    have hstart : p.start < cursor.position := hd.start_lt rfl
    refine List.forall_mem_append.2 ⟨placed_closingFaults hstart (Nat.le_of_lt hlt), ?_⟩
    refine List.forall_mem_singleton.2 ⟨p.start, cursor.position + 1, ?_, hlt, rfl⟩
    omega
  | @pointless p radix =>
    have hstart : p.start < cursor.position := hd.start_lt rfl
    refine List.forall_mem_singleton.2 ⟨p.start, cursor.position + 1, ?_, hlt, rfl⟩
    omega

/-- A transition reports faults at places that their issues call for. -/
theorem Transition.placed {s : Step} (h : Transition cursor c mode s) (hd : mode.Describes cursor)
    (hc : cursor.current? = some c) : ∀ fault ∈ s.output.faults, fault.Placed cursor.size := by
  cases h with
  | opens h => exact h.placed hd hc
  | emits h =>
    cases h with
    | symbol | documentation => exact fun _ hmem => absurd hmem List.not_mem_nil
    | illegal =>
      exact List.forall_mem_singleton.2 ⟨cursor.position, Cursor.position_lt_of_current? hc, rfl⟩
  | resumes h => exact h.placed hd hc
  | closes h => exact h.placed hd hc
  | handsOver h => exact h.placed hd hc

theorem Finishes.placed (h : Finishes cursor mode faults t) (hd : mode.Describes cursor)
    (hend : cursor.position = cursor.size) : ∀ fault ∈ faults, fault.Placed cursor.size := by
  cases h with
  | number => exact placed_closingFaults (hend ▸ hd.start_lt rfl) (Nat.le_refl _)
  | whitespace | symbol | word | doubleQuoted | singleQuoted =>
    exact fun _ hmem => absurd hmem List.not_mem_nil

/-- The faults of a line stand at places that their issues call for. -/
theorem scan_placed (code : List Char) :
    ∀ fault ∈ (scan code).faults, fault.Placed code.length := by
  apply scan_induction (P := fun output => ∀ fault ∈ output.faults, fault.Placed code.length)
  case empty => exact fun _ hmem => absurd hmem List.not_mem_nil
  case append => exact fun ha hb => List.forall_mem_append.2 ⟨ha, hb⟩
  case step =>
    intro mode cursor output c s h hc htransition
    rw [← h.size]
    exact htransition.placed h.describes hc
  case finish =>
    intro mode cursor output faults t h hend hfin
    rw [← h.size]
    exact hfin.placed h.describes hend

end

/-! ## Faults about the parts of a number -/

/-- The issues about how the parts of a number go together. -/
def isPartIssue : SyntaxIssue → Bool
  | .invalidNumber | .missingDecimalPoint | .uncompletedRepetend => true
  | _ => false

section
variable {cursor : Cursor} {c : Char} {mode next : Mode} {faults : List Fault} {fault : Fault}
  {t : Token} {n stop : Nat}

theorem issue_of_mem_closingFaults {p : Pending} (h : fault ∈ closingFaults p stop) :
    fault.issue = .uncompletedRepetend := by
  unfold closingFaults at h
  split at h
  · rw [List.mem_singleton.1 h]
  · exact absurd h List.not_mem_nil

theorem issue_of_mem_gapUnless {separated : Bool} {issue : SyntaxIssue} {column : Nat}
    (h : fault ∈ gapUnless separated issue column) : fault.issue = issue := by
  unfold gapUnless at h
  split at h
  · exact absurd h List.not_mem_nil
  · rw [List.mem_singleton.1 h]

theorem Opens.isPartIssue_eq_false {separated : Bool} (h : Opens cursor c separated faults next)
    (hfault : fault ∈ faults) : isPartIssue fault.issue = false := by
  cases h with
  | tab =>
    rw [List.mem_singleton.1 hfault]
    unfold tabIssue
    split <;> rfl
  | space | symbol => exact absurd hfault List.not_mem_nil
  | number | capitalized | uncapitalized | doubleQuoted | singleQuoted =>
    rw [issue_of_mem_gapUnless hfault]
    rfl

theorem Emits.isPartIssue_eq_false (h : Emits cursor c faults t next n)
    (hfault : fault ∈ faults) : isPartIssue fault.issue = false := by
  cases h with
  | illegal =>
    rw [List.mem_singleton.1 hfault]
    rfl
  | symbol | documentation => exact absurd hfault List.not_mem_nil

theorem Resumes.isPartIssue_eq_false (h : Resumes cursor c mode faults next n)
    (hfault : fault ∈ faults) : isPartIssue fault.issue = false := by
  cases h with
  | tab | illegalInWord | unknownQuoted =>
    rw [List.mem_singleton.1 hfault]
    rfl
  | @illegalDigit p radix =>
    rw [List.mem_singleton.1 hfault]
    cases radix <;> rfl
  | space | signed | word | binaryQuoted | hexQuoted | digit | binaryMark | hexMark | doubleQuoted
  | singleQuoted | doubledQuote => exact absurd hfault List.not_mem_nil

/-- When a token is closed, a repetend that is not complete is all that can be wrong with its
parts. -/
theorem Closes.issue_eq (h : Closes cursor c mode faults t next n) (hfault : fault ∈ faults)
    (hpart : isPartIssue fault.issue = true) : fault.issue = .uncompletedRepetend := by
  cases h with
  | number => exact issue_of_mem_closingFaults hfault
  | numberGap =>
    rcases List.mem_cons.1 hfault with rfl | hfault
    · exact nomatch hpart
    · exact issue_of_mem_closingFaults hfault
  | whitespace | pair | symbol | predicate | word | range | repetend | doubleQuoted
  | singleQuoted => exact absurd hfault List.not_mem_nil

theorem Finishes.issue_eq (h : Finishes cursor mode faults t) (hfault : fault ∈ faults) :
    fault.issue = .uncompletedRepetend := by
  cases h with
  | number => exact issue_of_mem_closingFaults hfault
  | whitespace | symbol | word | doubleQuoted | singleQuoted =>
    exact absurd hfault List.not_mem_nil

/-- A point too many is reported where the next part of the number is opened. -/
theorem Transition.of_invalidNumber {s : Step} (h : Transition cursor c mode s)
    (hfault : fault ∈ s.output.faults) (hissue : fault.issue = .invalidNumber) :
    ∃ p radix, mode = .number p radix ∧ p.category.isInteger = false ∧
      fault.place = .span p.start (cursor.position + 1) ∧
      s.output.tokens = [closedNumber cursor p cursor.position] ∧
      s.mode = .number ⟨.fraction, cursor.position, 1, true⟩ radix ∧ s.advance = 1 := by
  have hpart : isPartIssue fault.issue = true := by
    rw [hissue]
    rfl
  cases h with
  | opens h => exact nomatch (h.isPartIssue_eq_false hfault).symm.trans hpart
  | emits h => exact nomatch (h.isPartIssue_eq_false hfault).symm.trans hpart
  | resumes h => exact nomatch (h.isPartIssue_eq_false hfault).symm.trans hpart
  | closes h => exact nomatch (h.issue_eq hfault hpart).symm.trans hissue
  | handsOver h =>
    cases h with
    | fraction | repetend => exact absurd hfault List.not_mem_nil
    | pointless =>
      rw [List.mem_singleton.1 hfault] at hissue
      exact nomatch hissue
    | secondPoint _ hinteger =>
      rcases List.mem_append.1 hfault with hfault | hfault
      · exact nomatch (issue_of_mem_closingFaults hfault).symm.trans hissue
      · obtain rfl := List.mem_singleton.1 hfault
        exact ⟨_, _, rfl, hinteger, rfl, rfl, rfl, rfl⟩

end

/-! ## Where boundaries are reported -/

/-- A fault at a boundary. -/
def Fault.isGap (fault : Fault) : Bool :=
  match fault.place with
  | .gap _ => true
  | .span _ _ => false

/-- The issue of a lexeme that is opened without a separation, by the class of its first
character. -/
def openingIssue? : CharClass → Option SyntaxIssue
  | .digit => some .missingDemarcationFromNumber
  | .capitalLetter | .smallLetter => some .missingDemarcation
  | .doubleQuote | .singleQuote => some .missingDemarcationFromString
  | _ => none

section
variable {cursor : Cursor} {c : Char} {mode : Mode} {issue : SyntaxIssue} {column : Nat}

/-- Closing a part of a number says nothing about boundaries. -/
theorem filter_isGap_closingFaults (p : Pending) (stop : Nat) :
    (closingFaults p stop).filter Fault.isGap = [] := by
  unfold closingFaults
  split <;> rfl

/-- A transition reports at most one boundary, and that at the cursor: by a lexeme that is opened
without a separation, or by a number that is left at a symbol. -/
theorem Transition.gaps_eq {s : Step} (h : Transition cursor c mode s) :
    s.output.faults.filter Fault.isGap = [] ∨
      ∃ issue, s.output.faults.filter Fault.isGap = [⟨issue, .gap cursor.position⟩] ∧
        (mode = .undemarcated ∧ openingIssue? (CharClass.of c) = some issue ∧ s.advance = 1 ∨
          issue = .missingDemarcationFromNumber ∧ s.mode = .demarcated ∧
            ∃ p radix, mode = .number p radix ∧ CharClass.of c ∈ [.sign, .punctuation] ∧
              s.output.tokens = [closedNumber cursor p cursor.position]) := by
  cases h with
  | @opens separated faults next h =>
    cases h with
    | tab | space | symbol => exact .inl rfl
    | number hk | capitalized hk | uncapitalized hk | doubleQuoted hk | singleQuoted hk =>
      have hissue := congrArg openingIssue? hk
      cases separated with
      | true => exact .inl rfl
      | false => exact .inr ⟨_, rfl, .inl ⟨rfl, hissue, rfl⟩⟩
  | emits h => cases h <;> exact .inl rfl
  | resumes h => cases h <;> exact .inl rfl
  | handsOver h =>
    refine .inl ?_
    cases h with
    | fraction | repetend | pointless => rfl
    | secondPoint =>
      rw [List.filter_append, filter_isGap_closingFaults]
      rfl
  | closes h =>
    cases h
    case numberGap p radix hclass =>
      refine .inr ⟨_, ?_, .inr ⟨rfl, rfl, p, radix, rfl, hclass, rfl⟩⟩
      exact congrArg (_ :: ·) (filter_isGap_closingFaults p cursor.position)
    case number => exact .inl (filter_isGap_closingFaults _ _)
    all_goals exact .inl rfl

/-- A boundary is reported at the cursor: by a lexeme that is opened without a separation, or by a
number that is left at a symbol. -/
theorem Transition.of_gap_mem {s : Step} (h : Transition cursor c mode s)
    (hgap : (⟨issue, .gap column⟩ : Fault) ∈ s.output.faults) :
    column = cursor.position ∧
      (mode = .undemarcated ∧ openingIssue? (CharClass.of c) = some issue ∨
        issue = .missingDemarcationFromNumber ∧
          ∃ p radix, mode = .number p radix ∧ CharClass.of c ∈ [.sign, .punctuation] ∧
            s.output.tokens = [closedNumber cursor p cursor.position]) := by
  have hmem := List.mem_filter.2 ⟨hgap, (rfl : Fault.isGap _ = true)⟩
  rcases h.gaps_eq with hnone | ⟨issue', hone, hcase⟩
  · rw [hnone] at hmem
    exact absurd hmem List.not_mem_nil
  · rw [hone, List.mem_singleton] at hmem
    injection hmem with hissue hplace
    injection hplace with hcolumn
    rw [hissue]
    rcases hcase with ⟨hmode, hopen, -⟩ | ⟨hnumber, -, hclosed⟩
    · exact ⟨hcolumn, .inl ⟨hmode, hopen⟩⟩
    · exact ⟨hcolumn, .inr ⟨hnumber, hclosed⟩⟩

/-- The end of the line reports no boundary. -/
theorem filter_isGap_finish (hd : mode.Describes cursor) (hend : cursor.position = cursor.size) :
    (finish mode cursor).faults.filter Fault.isGap = [] := by
  rcases finishes_finish hd hend with ⟨-, hempty⟩ | ⟨faults, t, hfin, heq⟩
  · rw [hempty]
    rfl
  · rw [heq]
    cases hfin <;> first | rfl | exact filter_isGap_closingFaults _ _

theorem not_gap_mem_finish (hd : mode.Describes cursor) (hend : cursor.position = cursor.size) :
    (⟨issue, .gap column⟩ : Fault) ∉ (finish mode cursor).faults := by
  intro hgap
  have hmem := List.mem_filter.2 ⟨hgap, (rfl : Fault.isGap _ = true)⟩
  rw [filter_isGap_finish hd hend] at hmem
  exact absurd hmem List.not_mem_nil

end

/-- A place is told from a boundary by its locations. -/
theorem Place.locations_eq_gap_iff {number level column : Nat} {place : Place} :
    place.locations number level = (Place.gap column).locations number level ↔
      place = .gap column := by
  constructor
  · intro h
    cases place with
    | span start stop => exact nomatch h
    | gap column' =>
      injection h with _ hsecond
      injection hsecond with _ _ hcolumn
      rw [hcolumn]
  · rintro rfl
    rfl

end LineLexer.Scan
