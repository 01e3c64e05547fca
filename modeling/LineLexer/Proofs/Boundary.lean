import LineLexer.Proofs.Separation

/-!
# Reported boundaries

A missing separation is reported only where one is missing. The mode that asks for a separation
is reached only behind a token that needs one, and a number that is left at a symbol has just
been put out; so every boundary that is reported has such a token in front of it. No boundary
is reported twice: a transition reports at most one, and the next transition at the same
column does not ask for a separation any more.

* `gapCharacter`: what may stand behind a boundary, by the issue it is reported with;
* `Bounded`: what is known in a reachable state about the boundaries reported so far;
* `tokenize_boundaries`: the same, for the diagnostics of a `Line`.
-/

namespace LineLexer

/-- A character that may stand behind a boundary, by the issue that is reported there and the token
in front of it. -/
def gapCharacter (issue : SyntaxIssue) (before : Token) (c : Char) : Bool :=
  match issue with
  | .missingDemarcation => (CharClass.of c).isLetterClass
  | .missingDemarcationFromString => c == '"' || c == '\''
  | .missingDemarcationFromNumber =>
    CharClass.of c == .digit ||
      before.category.isNumber && (CharClass.of c == .sign || CharClass.of c == .punctuation)
  | _ => false

/-- The two locations of a boundary in a line. -/
def Line.boundary (line : Line) (column : Nat) : Locations :=
  .pair ⟨line.number, line.level, column - 1, column⟩ ⟨line.number, line.level, column, column + 1⟩

/-- A token that does not end the run has a next one. -/
theorem Tiles.exists_next {a b : Nat} {ts : List Token} {t : Token} (h : Tiles a ts b) (ht : t ∈ ts)
    (hlt : t.stop < b) : ∃ u, [t, u] <:+: ts ∧ u.start = t.stop := by
  induction ts generalizing a with
  | nil => exact absurd ht List.not_mem_nil
  | cons v vs ih =>
    obtain ⟨-, -, hrest⟩ := h
    rcases List.mem_cons.1 ht with rfl | ht'
    · cases vs with
      | nil =>
        have hend : t.stop = b := hrest
        omega
      | cons u us => exact ⟨u, ⟨[], us, rfl⟩, hrest.1⟩
    · obtain ⟨u, hinfix, hstart⟩ := ih hrest ht'
      exact ⟨u, List.infix_cons hinfix, hstart⟩

namespace Scan

/-! ## Tokens in front of the mode that asks for a separation -/

theorem needsSeparation_of_isNumber {t : Token} (h : t.category.isNumber = true) :
    t.needsSeparation = true := by
  simp [Token.needsSeparation, h]

theorem needsSeparation_of_isQuoting {t : Token} (h : t.category.isQuoting = true) :
    t.needsSeparation = true := by
  simp [Token.needsSeparation, h]

/-- A symbol that asks for a separation needs it. -/
theorem needsSeparation_of_after {s : Symbol} (h : Mode.after s = .undemarcated)
    (start stop : Nat) : (Token.ofSymbol s start stop).needsSeparation = true := by
  have hdem : s.demarcating = false := by
    cases hdem : s.demarcating with
    | false => rfl
    | true =>
      rw [Mode.after, hdem, if_pos rfl] at h
      exact Mode.noConfusion h
  show (!s.demarcating) = true
  rw [hdem]
  rfl

section
variable {cursor : Cursor} {c : Char} {mode next : Mode} {faults : List Fault} {t : Token} {n : Nat}

theorem needsSeparation_token_name {p : Pending} {stop : Nat} (hname : p.category.isName = true)
    (hoffset : p.offset = 0) {letter : Char} (hmem : letter ∈ cursor.slice p.start stop)
    (hletter : (CharClass.of letter).isLetterClass = true) :
    (p.token cursor stop stop).needsSeparation = true := by
  obtain htoken | ⟨k, -, htoken⟩ := Pending.token_of_isName hname hoffset hmem hletter
  · rw [htoken]
    simp [Token.needsSeparation, hname]
  · rw [htoken]
    rfl

theorem Emits.needsSeparation (h : Emits cursor c faults t next n)
    (hnext : next = .undemarcated) : t.needsSeparation = true := by
  cases h with
  | symbol => exact needsSeparation_of_after hnext _ _
  | illegal | documentation => exact nomatch hnext

theorem Closes.needsSeparation (h : Closes cursor c mode faults t next n)
    (hd : mode.Describes cursor) (hc : cursor.current? = some c) (hnext : next = .undemarcated) :
    t.needsSeparation = true := by
  cases h with
  | whitespace | range | numberGap => exact nomatch hnext
  | pair | symbol => exact needsSeparation_of_after hnext _ _
  | @predicate p h =>
    obtain ⟨letter, hmem, hletter⟩ := WordText.exists_letter hd
    have hslice : cursor.slice p.start (cursor.position + 1) = p.text cursor ++ [c] :=
      Cursor.slice_succ (Nat.le_of_lt (hd.start_lt rfl)) hc
    have hoffset : p.offset = 0 := WordText.offset hd
    refine needsSeparation_token_name (p := p.recast .predicate) rfl hoffset ?_ hletter
    show letter ∈ cursor.slice p.start (cursor.position + 1)
    rw [hslice]
    exact List.mem_append_left _ hmem
  | word =>
    obtain ⟨letter, hmem, hletter⟩ := WordText.exists_letter hd
    exact needsSeparation_token_name (WordText.category hd) (WordText.offset hd) hmem hletter
  | repetend =>
    apply needsSeparation_of_isNumber
    rw [(Pending.token_of_isLiteral cursor (.inl (NumberText.isNumber hd)) _ _).1]
    exact NumberText.isNumber hd
  | number =>
    apply needsSeparation_of_isNumber
    rw [category_closedNumber cursor hd]
    exact NumberText.isNumber hd
  | doubleQuoted =>
    apply needsSeparation_of_isQuoting
    rw [(Pending.token_of_isLiteral cursor (.inr (DoubleText.isQuoting hd)) _ _).1]
    exact DoubleText.isQuoting hd
  | singleQuoted =>
    apply needsSeparation_of_isQuoting
    rw [(Pending.token_of_isLiteral cursor (.inr (SingleText.isQuoting hd)) _ _).1]
    exact SingleText.isQuoting hd

/-- A transition that asks for a separation from what follows has just put out a token that needs
it. -/
theorem Transition.needsSeparation {s : Step} (h : Transition cursor c mode s)
    (hd : mode.Describes cursor) (hc : cursor.current? = some c) (hnext : s.mode = .undemarcated) :
    ∃ t ∈ s.output.tokens, t.stop = (cursor.advance s.advance).position ∧
      t.needsSeparation = true := by
  have htiles := h.tiles hd hc
  rw [hnext] at htiles
  cases h with
  | opens h | resumes h | handsOver h => cases h <;> exact nomatch hnext
  | emits h => exact ⟨_, List.mem_singleton.2 rfl, htiles.2.2, h.needsSeparation hnext⟩
  | closes h => exact ⟨_, List.mem_singleton.2 rfl, htiles.2.2, h.needsSeparation hd hc hnext⟩

/-- Between two lexemes, a transition takes a character. -/
theorem Transition.advance_pos {s : Step} (h : Transition cursor c mode s)
    (hc : cursor.current? = some c) (hmode : mode.isBetween = true) : 0 < s.advance := by
  have hnone := Mode.pending?_eq_none_of_isBetween hmode
  cases h with
  | opens h => exact Nat.one_pos
  | emits h =>
    obtain ⟨-, -, -, hpos, -⟩ := h.span hc
    exact hpos
  | resumes h =>
    obtain ⟨p, q, hp, -⟩ := h.pending?
    exact nomatch hnone.symm.trans hp
  | closes h =>
    obtain ⟨-, -, p, hp, -⟩ := h.span
    exact nomatch hnone.symm.trans hp
  | handsOver h => exact Nat.one_pos

/-! ## What stands behind a boundary -/

theorem gapCharacter_of_openingIssue? {issue : SyntaxIssue}
    (h : openingIssue? (CharClass.of c) = some issue) (before : Token) :
    gapCharacter issue before c = true := by
  have hmember := CharClass.member_of c
  cases hk : CharClass.of c <;> rw [hk] at h hmember <;>
    simp only [openingIssue?, Option.some.injEq, reduceCtorEq] at h <;> subst h <;>
    simp only [gapCharacter, hk]
  case digit => rfl
  case capitalLetter | smallLetter => rfl
  case doubleQuote =>
    rw [show c = '"' from hmember]
    rfl
  case singleQuote =>
    rw [show c = '\'' from hmember]
    rfl

theorem gapCharacter_of_isNumber {before : Token} (hnumber : before.category.isNumber = true)
    (h : CharClass.of c ∈ [.sign, .punctuation]) :
    gapCharacter .missingDemarcationFromNumber before c = true := by
  simp only [List.mem_cons, List.not_mem_nil, or_false] at h
  rcases h with h | h <;> simp [gapCharacter, h, hnumber]

end

/-! ## Along a run -/

/-- There is a token that ends at a column and needs a separation, and behind it a character that
calls for the issue. -/
def Lacking (code : List Char) (tokens : List Token) (issue : SyntaxIssue) (column : Nat) : Prop :=
  ∃ p ∈ tokens, p.stop = column ∧ p.needsSeparation = true ∧
    ∃ c, code[column]? = some c ∧ gapCharacter issue p c = true

/-- What is known in a reachable state about the boundaries reported so far. -/
structure Bounded (code : List Char) (mode : Mode) (cursor : Cursor) (output : Output) :
    Prop where
  /-- A mode that asks for a separation stands behind a token that needs it. -/
  asked : mode = .undemarcated →
    ∃ p ∈ output.tokens, p.stop = cursor.position ∧ p.needsSeparation = true
  /-- A separation is missing at every boundary that is reported. -/
  lacking : ∀ issue column, (⟨issue, .gap column⟩ : Fault) ∈ output.faults →
    Lacking code output.tokens issue column
  /-- At the cursor, nothing is asked for any more once the boundary has been reported. -/
  passed : ∀ issue column, (⟨issue, .gap column⟩ : Fault) ∈ output.faults →
    column < cursor.position ∨ column = cursor.position ∧ mode = .demarcated
  /-- No boundary is reported twice. -/
  once : (output.faults.filter Fault.isGap).Pairwise fun f g => f.place ≠ g.place

section
variable {code : List Char} {cursor : Cursor} {c : Char} {mode : Mode} {output : Output} {s : Step}
  {issue : SyntaxIssue} {column : Nat}

theorem Lacking.mono {tokens : List Token} (h : Lacking code tokens issue column)
    (more : List Token) : Lacking code (tokens ++ more) issue column := by
  obtain ⟨p, hp, hlacking⟩ := h
  exact ⟨p, List.mem_append_left more hp, hlacking⟩

/-- A boundary that a transition reports lacks a separation. -/
theorem Transition.lacking (h : Transition cursor c mode s) (hcode : cursor.chars = code.toArray)
    (hd : mode.Describes cursor) (hc : cursor.current? = some c)
    (hbounded : Bounded code mode cursor output)
    (hgap : (⟨issue, .gap column⟩ : Fault) ∈ s.output.faults) :
    Lacking code (output.tokens ++ s.output.tokens) issue column := by
  have hchar : code[cursor.position]? = some c := by
    rw [← Cursor.charAt?_of_chars hcode]
    exact hc
  obtain ⟨rfl, ⟨hmode, hissue⟩ | ⟨rfl, p, radix, rfl, hclass, htokens⟩⟩ := h.of_gap_mem hgap
  · obtain ⟨p, hp, hstop, hneeds⟩ := hbounded.asked hmode
    exact ⟨p, List.mem_append_left _ hp, hstop, hneeds, c, hchar,
      gapCharacter_of_openingIssue? hissue p⟩
  · have hnumber : (closedNumber cursor p cursor.position).category.isNumber = true := by
      rw [category_closedNumber cursor hd]
      exact NumberText.isNumber hd
    refine ⟨closedNumber cursor p cursor.position, ?_, stop_closedNumber _ _ _,
      needsSeparation_of_isNumber hnumber, c, hchar, gapCharacter_of_isNumber hnumber hclass⟩
    rw [htokens]
    exact List.mem_append_right _ (List.mem_singleton.2 rfl)

/-- A transition does not report a boundary again. -/
theorem Transition.once (h : Transition cursor c mode s)
    (hbounded : Bounded code mode cursor output) :
    ((output.faults ++ s.output.faults).filter Fault.isGap).Pairwise
      fun f g => f.place ≠ g.place := by
  rw [List.filter_append]
  rcases h.gaps_eq with hnone | ⟨issue, hone, hcase⟩
  · rw [hnone, List.append_nil]
    exact hbounded.once
  · rw [hone]
    refine List.pairwise_append.2 ⟨hbounded.once, List.pairwise_singleton _ _, ?_⟩
    rintro ⟨issue', place⟩ hmem g hg hplace
    rw [List.mem_singleton.1 hg] at hplace
    obtain rfl : place = .gap cursor.position := hplace
    -- the mode that reports a boundary is not the one that is left behind by such a report
    rcases hbounded.passed issue' _ (List.mem_filter.1 hmem).1 with hlt | ⟨-, hmode⟩
    · omega
    · rcases hcase with ⟨hmode', -⟩ | ⟨-, -, p, radix, hmode', -⟩ <;>
        exact nomatch hmode.symm.trans hmode'

theorem Transition.passed (h : Transition cursor c mode s) (hc : cursor.current? = some c)
    (hle : cursor.position + s.advance ≤ cursor.size) (hbounded : Bounded code mode cursor output)
    (hgap : (⟨issue, .gap column⟩ : Fault) ∈ output.faults ++ s.output.faults) :
    column < (cursor.advance s.advance).position ∨
      column = (cursor.advance s.advance).position ∧ s.mode = .demarcated := by
  have hposition := Cursor.position_advance hle
  rw [hposition]
  rcases List.mem_append.1 hgap with hgap | hgap
  · rcases hbounded.passed issue column hgap with hlt | ⟨rfl, hmode⟩
    · exact .inl (by omega)
    · have hpos := h.advance_pos hc (by rw [hmode]; rfl)
      exact .inl (by omega)
  · have hmem := List.mem_filter.2 ⟨hgap, (rfl : Fault.isGap _ = true)⟩
    rcases h.gaps_eq with hnone | ⟨issue', hone, hcase⟩
    · rw [hnone] at hmem
      exact absurd hmem List.not_mem_nil
    · rw [hone, List.mem_singleton] at hmem
      injection hmem with hissue hplace
      injection hplace with hcolumn
      rcases hcase with ⟨-, -, hone⟩ | ⟨-, hmode, -⟩
      · exact .inl (by omega)
      · rcases Nat.lt_or_eq_of_le (Nat.le_add_right cursor.position s.advance) with hlt | heq
        · exact .inl (by omega)
        · exact .inr ⟨by omega, hmode⟩

/-- Every transition keeps what is known about boundaries. -/
theorem Transition.bounded (h : Transition cursor c mode s) (hcode : cursor.chars = code.toArray)
    (hd : mode.Describes cursor) (hc : cursor.current? = some c)
    (hle : cursor.position + s.advance ≤ cursor.size)
    (hbounded : Bounded code mode cursor output) :
    Bounded code s.mode (cursor.advance s.advance) (output ++ s.output) := by
  refine ⟨fun hmode => ?_, fun issue column hgap => ?_, fun issue column hgap => ?_, ?_⟩
  · obtain ⟨t, ht, hneeds⟩ := h.needsSeparation hd hc hmode
    exact ⟨t, List.mem_append_right _ ht, hneeds⟩
  · rcases List.mem_append.1 hgap with hgap | hgap
    · exact (hbounded.lacking issue column hgap).mono s.output.tokens
    · exact h.lacking hcode hd hc hbounded hgap
  · exact h.passed hc hle hbounded hgap
  · exact h.once hbounded

/-- In every reachable state the boundaries reported so far lack a separation. -/
theorem Reaches.bounded (h : Reaches code mode cursor output) :
    Bounded code mode cursor output := by
  induction h with
  | start =>
    exact ⟨(nomatch ·), fun _ _ hgap => absurd hgap List.not_mem_nil,
      fun _ _ hgap => absurd hgap List.not_mem_nil, .nil⟩
  | step h hc ih =>
    have htransition := transition_step h.describes hc
    exact htransition.bounded h.chars h.describes hc (htransition.advance_le hc) ih

/-- The boundaries reported in a line lack a separation, and none is reported twice. -/
theorem scan_bounded (code : List Char) :
    (∀ issue column, (⟨issue, .gap column⟩ : Fault) ∈ (scan code).faults →
        Lacking code (scan code).tokens issue column) ∧
      ((scan code).faults.filter Fault.isGap).Pairwise fun f g => f.place ≠ g.place := by
  obtain ⟨mode, cursor, output, hreach, hend, -, hscan⟩ := exists_reaches_scan code
  have hfinish := filter_isGap_finish hreach.describes hend
  rw [hscan]
  constructor
  · intro issue column hgap
    rcases List.mem_append.1 hgap with hgap | hgap
    · exact (hreach.bounded.lacking issue column hgap).mono _
    · exact absurd hgap (not_gap_mem_finish hreach.describes hend)
  · rw [Output.faults_append, List.filter_append, hfinish, List.append_nil]
    exact hreach.bounded.once

end

/-! ## Diagnostics at a boundary -/

theorem filter_place_eq {faults : List Fault} {fault : Fault}
    (h : faults.Pairwise fun f g => f.place ≠ g.place) (hmem : fault ∈ faults) :
    faults.filter (·.place = fault.place) = [fault] := by
  induction faults with
  | nil => exact absurd hmem List.not_mem_nil
  | cons f fs ih =>
    obtain ⟨hne, hrest⟩ := List.pairwise_cons.1 h
    rcases List.mem_cons.1 hmem with rfl | hmem'
    · have hnone : fs.filter (·.place = fault.place) = [] := by
        refine List.filter_eq_nil_iff.2 fun g hg hplace => hne g hg ?_
        exact (of_decide_eq_true hplace).symm
      rw [List.filter_cons_of_pos (by simp), hnone]
    · rw [List.filter_cons_of_neg (by simpa using hne fault hmem'), ih hrest hmem']

end Scan

/-- Where a missing separation is reported, a token ends and the next one begins, the first of them
needs a separation, and what follows is of the kind that the issue names. No boundary is reported
twice. -/
theorem tokenize_boundaries (line : Line) (d : Diagnostic) (hd : d ∈ line.tokenize.2)
    (issue : SyntaxIssue) (hissue : issue ∈ separationIssues) (hcode : d.issue = issue.code) :
    ∃ column p q c, 0 < column ∧ d.locations = line.boundary column ∧
      [p, q] <:+: line.tokenize.1 ∧ p.stop = column ∧ q.start = column ∧
      p.needsSeparation = true ∧
      line.code.toList[column]? = some c ∧ gapCharacter issue p c = true ∧
      line.tokenize.2.filter (·.locations = d.locations) = [d] := by
  obtain ⟨fault, hfault, rfl⟩ := List.mem_map.1 hd
  obtain ⟨issue', place⟩ := fault
  obtain rfl : issue' = issue := SyntaxIssue.code_injective hcode
  have hplaced := Scan.scan_placed line.code.toList _ hfault
  obtain ⟨column, hpos, hlt, rfl⟩ :
      ∃ column, 0 < column ∧ column < line.code.toList.length ∧ place = .gap column := by
    simp only [separationIssues, List.mem_cons, List.not_mem_nil, or_false] at hissue
    rcases hissue with rfl | rfl | rfl <;> exact hplaced
  obtain ⟨hlacking, honce⟩ := Scan.scan_bounded line.code.toList
  obtain ⟨p, hp, hstop, hneeds, c, hc, hcharacter⟩ := hlacking _ _ hfault
  obtain ⟨q, hinfix, hstart⟩ :=
    (Scan.scan_tiles line.code.toList).exists_next hp (by omega)
  refine ⟨column, p, q, c, hpos, rfl, hinfix, hstop, hstart.trans hstop, hneeds, hc, hcharacter, ?_⟩
  -- among the faults, those at the boundary are the one at hand
  have hgaps := Scan.filter_place_eq honce (List.mem_filter.2 ⟨hfault, rfl⟩)
  have hfilter : (Scan.scan line.code.toList).faults.filter
      (fun f => (f.diagnostic line.number line.level).locations =
        (Scan.Place.gap column).locations line.number line.level) =
      [⟨issue', .gap column⟩] := by
    rw [← hgaps, List.filter_filter]
    refine List.filter_congr fun f _ => ?_
    simp only [Scan.Fault.diagnostic, Diagnostic.ofIssue, Scan.Place.locations_eq_gap_iff]
    by_cases hplace : f.place = .gap column <;> simp [hplace, Scan.Fault.isGap]
  show List.filter _ (List.map _ _) = _
  rw [List.filter_map]
  exact congrArg (List.map _) hfilter

/-- A symbol right behind a number, and a literal right behind that symbol. -/
theorem tokenize_boundaries_symbol :
    (⟨3, 1, "0xF=\"s\"", none⟩ : Line).tokenize.2 =
        [.ofIssue .missingDemarcationFromNumber (.pair ⟨3, 1, 2, 3⟩ ⟨3, 1, 3, 4⟩),
          .ofIssue .missingDemarcationFromString (.pair ⟨3, 1, 3, 4⟩ ⟨3, 1, 4, 5⟩)] ∧
      ∃ column p q c, 0 < column ∧
        Locations.pair ⟨3, 1, 2, 3⟩ ⟨3, 1, 3, 4⟩ =
          (⟨3, 1, "0xF=\"s\"", none⟩ : Line).boundary column ∧
        [p, q] <:+: (⟨3, 1, "0xF=\"s\"", none⟩ : Line).tokenize.1 ∧
        p.stop = column ∧ q.start = column ∧ p.needsSeparation = true ∧
        "0xF=\"s\"".toList[column]? = some c ∧
        gapCharacter .missingDemarcationFromNumber p c = true ∧
        (⟨3, 1, "0xF=\"s\"", none⟩ : Line).tokenize.2.filter
            (·.locations = .pair ⟨3, 1, 2, 3⟩ ⟨3, 1, 3, 4⟩) =
          [.ofIssue .missingDemarcationFromNumber (.pair ⟨3, 1, 2, 3⟩ ⟨3, 1, 3, 4⟩)] := by
  have hfaults : (Scan.scan "0xF=\"s\"".toList).faults =
      [⟨.missingDemarcationFromNumber, .gap 3⟩, ⟨.missingDemarcationFromString, .gap 4⟩] := by cbv
  have hdiagnostics : (⟨3, 1, "0xF=\"s\"", none⟩ : Line).tokenize.2 =
      [.ofIssue .missingDemarcationFromNumber (.pair ⟨3, 1, 2, 3⟩ ⟨3, 1, 3, 4⟩),
        .ofIssue .missingDemarcationFromString (.pair ⟨3, 1, 3, 4⟩ ⟨3, 1, 4, 5⟩)] :=
    congrArg (List.map (Scan.Fault.diagnostic 3 1)) hfaults
  refine ⟨hdiagnostics, tokenize_boundaries ⟨3, 1, "0xF=\"s\"", none⟩
    (.ofIssue .missingDemarcationFromNumber (.pair ⟨3, 1, 2, 3⟩ ⟨3, 1, 3, 4⟩)) ?_
    .missingDemarcationFromNumber (by decide) rfl⟩
  rw [hdiagnostics]
  exact List.mem_cons_self

end LineLexer
