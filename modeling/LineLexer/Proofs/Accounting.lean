import LineLexer.Proofs.Marking
import LineLexer.Proofs.Separation

/-!
# Faults and the marks they leave

A fault over a run of columns leaves a mark on a token that it overlaps. It does so when it is
reported (`Transition.shown_of_mem`), and every transition keeps what is flagged
(`Transition.keeps`), so the mark is still there at the end of the line. The exception is a
point too many in a number: the part of the number that it opens is marked, but if a second point
follows it, the two are put out as a range, and a range has no mark.

* `Shown`: a place overlaps a token that is marked;
* `Erased`: a point too many whose mark is gone;
* `tokenize_marked`: the diagnostics whose marks are gone are exactly those.
-/

namespace LineLexer

namespace Scan

/-! ## Marks that are kept -/

/-- A place overlaps a token that is marked. -/
def Shown (tokens : List Token) (mode : Mode) (cursor : Cursor) (place : Place) : Prop :=
  ∃ start stop, Flagged tokens mode cursor start stop ∧ place.Meets start stop

/-- A fault about a point too many in a number, which starts a range, though the part of the number
in front of it is not marked. -/
structure Erased (code : List Char) (tokens : List Token) (fault : Fault) : Prop where
  /-- The fault is about a point too many. -/
  issue : fault.issue = .invalidNumber
  /-- It is reported from the start of the part in front of the point, and another point follows. -/
  part : ∃ p ∈ tokens, p.invalid = false ∧ fault.place = .span p.start (p.stop + 1) ∧
    code[p.stop + 1]? = some '.'

section
variable {code : List Char} {cursor : Cursor} {c : Char} {mode next : Mode} {output : Output}
  {tokens more : List Token} {faults : List Fault} {fault : Fault} {place : Place} {t : Token}
  {start stop n : Nat} {s : Step}

theorem Shown.mono (h : Shown tokens mode cursor place) (hsubset : tokens ⊆ more) :
    Shown more mode cursor place := by
  obtain ⟨start, stop, hflag, hmeets⟩ := h
  exact ⟨start, stop, hflag.mono hsubset, hmeets⟩

theorem Erased.mono (h : Erased code tokens fault) (hsubset : tokens ⊆ more) :
    Erased code more fault := by
  obtain ⟨p, hp, hpart⟩ := h.part
  exact ⟨h.issue, p, hsubset hp, hpart⟩

/-- What is flagged stays flagged. -/
theorem Transition.keeps (h : Transition cursor c mode s) (hd : mode.Describes cursor)
    (hc : cursor.current? = some c) (hflag : Flagged [] mode cursor start stop) :
    ∃ stop' ≥ stop, Flagged s.output.tokens s.mode (cursor.advance s.advance) start stop' := by
  cases hflag with
  | token hmem => exact absurd hmem List.not_mem_nil
  | @pending p hp hlasts hinvalid =>
    cases h with
    | @opens separated | @emits separated => cases separated <;> exact nomatch hp
    | @resumes _ _ _ n h =>
      obtain ⟨p', q, hp', hq, hstart⟩ := h.pending?
      obtain rfl : p' = p := Option.some.inj (hp'.symm.trans hp)
      have hkept := (h.blames hd hp hq).kept hinvalid
      refine ⟨(cursor.advance n).position, Cursor.position_le_position_advance cursor n, ?_⟩
      rw [← hstart]
      exact .pending hq (h.startsRange hd hc) hkept
    | @closes _ _ _ t _ h =>
      obtain ⟨-, -, p', hp', hstart, hstop⟩ := h.span
      obtain rfl : p' = p := Option.some.inj (hp'.symm.trans hp)
      have hkept := (h.blames hd hc hlasts hp).kept hinvalid
      refine ⟨t.stop, by omega, ?_⟩
      rw [← hstart]
      exact .token List.mem_cons_self hkept
    | @handsOver _ _ _ t h =>
      obtain ⟨p', q, hp', hq, hstart, hstop, -⟩ := h.span
      obtain rfl : p' = p := Option.some.inj (hp'.symm.trans hp)
      obtain ⟨closing, opening, -, hblames, -⟩ := h.blames hd hp hq
      refine ⟨t.stop, by omega, ?_⟩
      rw [← hstart]
      exact .token List.mem_cons_self (hblames.kept hinvalid)

/-- What is shown stays shown. -/
theorem Transition.shown (h : Transition cursor c mode s) (hd : mode.Describes cursor)
    (hc : cursor.current? = some c) (hshown : Shown tokens mode cursor place) :
    Shown (tokens ++ s.output.tokens) s.mode (cursor.advance s.advance) place := by
  obtain ⟨start, stop, hflag, hmeets⟩ := hshown
  cases hflag with
  | token hmem hinvalid => exact ⟨_, _, .token (List.mem_append_left _ hmem) hinvalid, hmeets⟩
  | pending hp hlasts hinvalid =>
    obtain ⟨stop', hle, hflag⟩ := h.keeps hd hc (.pending hp hlasts hinvalid)
    exact ⟨_, stop', hflag.mono (List.subset_append_right _ _), hmeets.mono hle⟩

/-! ## Marks of new faults -/

/-- A fault about a part of a number that is not complete is shown, unless it is a point too many
that starts a range. -/
theorem HandsOver.shown_of_mem (h : HandsOver cursor c mode faults t next)
    (hcode : cursor.chars = code.toArray) (hd : mode.Describes cursor)
    (hc : cursor.current? = some c) (hfault : fault ∈ faults) (hspan : fault.isGap = false) :
    Shown [t] next (cursor.advance 1) fault.place ∨ Erased code [t] fault := by
  have hposition := Cursor.position_advance_one hc
  cases h with
  | fraction | repetend => exact absurd hfault List.not_mem_nil
  | @pointless p radix =>
    have hlt : p.start < cursor.position := hd.start_lt rfl
    obtain rfl := List.mem_singleton.1 hfault
    refine .inl ⟨_, _, .pending rfl rfl rfl, ?_, Nat.lt_succ_self _⟩
    omega
  | @secondPoint p radix =>
    have hlt : p.start < cursor.position := hd.start_lt rfl
    -- the part in front of the point is marked, or the one that it opens, unless this is a range
    rcases List.mem_append.1 hfault with hfault | hfault
    · obtain ⟨hinvalid, hmeets⟩ := (blames_closingFaults hlt cursor).marked fault hfault hspan
      refine .inl ⟨_, _, .token List.mem_cons_self hinvalid, ?_⟩
      rwa [start_closedNumber, stop_closedNumber]
    · obtain rfl := List.mem_singleton.1 hfault
      cases hinvalid : (closedNumber cursor p cursor.position).invalid with
      | true =>
        refine .inl ⟨_, _, .token List.mem_cons_self hinvalid, ?_⟩
        rw [start_closedNumber, stop_closedNumber]
        exact ⟨hlt, Nat.lt_succ_of_lt hlt⟩
      | false =>
        cases hrange : (Mode.number ⟨.fraction, cursor.position, 1, true⟩ radix).startsRange
            (cursor.advance 1) with
        | false =>
          refine .inl ⟨_, _, .pending rfl hrange rfl, ?_, Nat.lt_succ_self _⟩
          omega
        | true =>
          obtain ⟨-, -, hpoint⟩ := Mode.startsRange_number_iff.1 hrange
          refine .inr ⟨rfl, _, List.mem_cons_self, hinvalid, ?_, ?_⟩
          · rw [start_closedNumber, stop_closedNumber]
          · rw [stop_closedNumber, ← hposition, ← Cursor.charAt?_of_chars hcode]
            exact hpoint

/-- A fault of a transition is shown, unless it is a point too many that starts a range. -/
theorem Transition.shown_of_mem (h : Transition cursor c mode s)
    (hcode : cursor.chars = code.toArray) (hd : mode.Describes cursor)
    (hc : cursor.current? = some c) (hfault : fault ∈ s.output.faults)
    (hspan : fault.isGap = false) :
    Shown s.output.tokens s.mode (cursor.advance s.advance) fault.place ∨
      Erased code s.output.tokens fault := by
  cases h with
  | opens h =>
    obtain ⟨q, hq, -⟩ := h.pending?
    obtain ⟨hinvalid, hmeets⟩ := (h.blames hq).marked fault hfault hspan
    rw [← Cursor.position_advance_one hc] at hmeets
    exact .inl ⟨_, _, .pending hq (h.startsRange _) hinvalid, hmeets⟩
  | emits h =>
    obtain ⟨hinvalid, hmeets⟩ := h.blames.marked fault hfault hspan
    exact .inl ⟨_, _, .token List.mem_cons_self hinvalid, hmeets⟩
  | @resumes _ _ _ n h =>
    have hle : cursor.position + n ≤ cursor.size := (Transition.resumes h).advance_le hc
    obtain ⟨p, q, hp, hq, hstart⟩ := h.pending?
    obtain ⟨hinvalid, hmeets⟩ := (h.blames hd hp hq).marked fault hfault hspan
    rw [← Cursor.position_advance hle, ← hstart] at hmeets
    exact .inl ⟨_, _, .pending hq (h.startsRange hd hc) hinvalid, hmeets⟩
  | closes h =>
    -- a range drops the mark of its first point, but reports nothing itself
    cases hrange : mode.startsRange cursor with
    | true =>
      obtain ⟨p, -, heq⟩ := (Transition.closes h).of_startsRange hd hc hrange
      rw [heq] at hfault
      exact absurd hfault List.not_mem_nil
    | false =>
      obtain ⟨-, -, p, hp, -, -⟩ := h.span
      obtain ⟨hinvalid, hmeets⟩ := (h.blames hd hc hrange hp).marked fault hfault hspan
      exact .inl ⟨_, _, .token List.mem_cons_self hinvalid, hmeets⟩
  | handsOver h => exact h.shown_of_mem hcode hd hc hfault hspan

/-! ## Along a run -/

/-- Every fault over a run of columns is shown, or its mark is gone. -/
def Accounted (code : List Char) (mode : Mode) (cursor : Cursor) (output : Output) : Prop :=
  ∀ fault ∈ output.faults, fault.isGap = false →
    Shown output.tokens mode cursor fault.place ∨ Erased code output.tokens fault

theorem Transition.accounted (h : Transition cursor c mode s)
    (hcode : cursor.chars = code.toArray) (hd : mode.Describes cursor)
    (hc : cursor.current? = some c) (haccounted : Accounted code mode cursor output) :
    Accounted code s.mode (cursor.advance s.advance) (output ++ s.output) := by
  intro fault hfault hspan
  rcases List.mem_append.1 hfault with hfault | hfault
  · rcases haccounted fault hfault hspan with hshown | herased
    · exact .inl (h.shown hd hc hshown)
    · exact .inr (herased.mono (List.subset_append_left _ _))
  · rcases h.shown_of_mem hcode hd hc hfault hspan with hshown | herased
    · exact .inl (hshown.mono (List.subset_append_right _ _))
    · exact .inr (herased.mono (List.subset_append_right _ _))

theorem Reaches.accounted (h : Reaches code mode cursor output) :
    Accounted code mode cursor output := by
  induction h with
  | start => exact fun _ hfault => absurd hfault List.not_mem_nil
  | step h hc ih => exact (transition_step h.describes hc).accounted h.chars h.describes hc ih

theorem Shown.of_pending?_eq_none (h : Shown tokens mode cursor place)
    (hnone : mode.pending? = none) :
    ∃ t ∈ tokens, t.invalid = true ∧ place.Meets t.start t.stop := by
  obtain ⟨start, stop, hflag, hmeets⟩ := h
  cases hflag with
  | token hmem hinvalid => exact ⟨_, hmem, hinvalid, hmeets⟩
  | pending hp => exact nomatch hnone.symm.trans hp

/-- At the end of the line the token under construction takes its mark along. -/
theorem Finishes.shown (h : Finishes cursor mode faults t) (hd : mode.Describes cursor)
    (hend : cursor.position = cursor.size) (hshown : Shown tokens mode cursor place) :
    ∃ u ∈ tokens ++ [t], u.invalid = true ∧ place.Meets u.start u.stop := by
  obtain ⟨start, stop, hflag, hmeets⟩ := hshown
  cases hflag with
  | token hmem hinvalid => exact ⟨_, List.mem_append_left _ hmem, hinvalid, hmeets⟩
  | @pending p hp _ hinvalid =>
    obtain ⟨p', hp', hstart, hstop⟩ := h.span
    obtain rfl : p' = p := Option.some.inj (hp'.symm.trans hp)
    have hkept := (h.blames hd hend hp).kept hinvalid
    rw [← hstart, hend, ← hstop] at hmeets
    exact ⟨t, List.mem_append_right _ List.mem_cons_self, hkept, hmeets⟩

/-- Every fault of a line over a run of columns marks a token, or its mark is gone. -/
theorem scan_accounted (hfault : fault ∈ (scan code).faults) (hspan : fault.isGap = false) :
    (∃ t ∈ (scan code).tokens, t.invalid = true ∧ fault.place.Meets t.start t.stop) ∨
      Erased code (scan code).tokens fault := by
  obtain ⟨mode, cursor, output, hreach, hend, -, hscan⟩ := exists_reaches_scan code
  rw [hscan] at hfault ⊢
  rcases finishes_finish hreach.describes hend with ⟨hnone, hempty⟩ | ⟨faults, t, hfin, heq⟩
  · rw [hempty, Output.append_empty] at hfault ⊢
    rcases hreach.accounted fault hfault hspan with hshown | herased
    · exact .inl (hshown.of_pending?_eq_none hnone)
    · exact .inr herased
  · rw [heq] at hfault ⊢
    rcases List.mem_append.1 hfault with hfault | hfault
    · rcases hreach.accounted fault hfault hspan with hshown | herased
      · exact .inl (hfin.shown hreach.describes hend hshown)
      · exact .inr (herased.mono (List.subset_append_left _ _))
    · obtain ⟨p, hp, -⟩ := hfin.span
      obtain ⟨hinvalid, hmeets⟩ :=
        (hfin.blames hreach.describes hend hp).marked fault hfault hspan
      exact .inl ⟨t, List.mem_append_right _ List.mem_cons_self, hinvalid, hmeets⟩

/-! ## Points too many -/

/-- A point too many is reported from the start of the part of the number in front of it. If another
point follows, the two are a range, which is put out or just starts. -/
def Excess (code : List Char) (tokens : List Token) (mode : Mode) (cursor : Cursor)
    (fault : Fault) : Prop :=
  ∃ p ∈ tokens, fault.place = .span p.start (p.stop + 1) ∧
    (code[p.stop + 1]? = some '.' →
      mode.startsRange cursor = true ∧ mode.settled cursor = p.stop ∨
        Token.ofSymbol .ellipsis p.stop (p.stop + 2) ∈ tokens)

theorem Excess.mono (h : Excess code tokens mode cursor fault) (hsubset : tokens ⊆ more) :
    Excess code more mode cursor fault := by
  obtain ⟨p, hp, hplace, hrange⟩ := h
  exact ⟨p, hsubset hp, hplace, fun hpoint => (hrange hpoint).imp id fun hmem => hsubset hmem⟩

theorem Transition.excess_of_mem (h : Transition cursor c mode s)
    (hcode : cursor.chars = code.toArray) (hc : cursor.current? = some c)
    (hfault : fault ∈ s.output.faults) (hissue : fault.issue = .invalidNumber) :
    Excess code s.output.tokens s.mode (cursor.advance s.advance) fault := by
  obtain ⟨p, radix, rfl, -, hplace, htokens, hmode, hadvance⟩ := h.of_invalidNumber hfault hissue
  have hposition := Cursor.position_advance_one hc
  rw [htokens, hmode, hadvance]
  refine ⟨_, List.mem_cons_self, ?_, fun hpoint => .inl ⟨?_, ?_⟩⟩
  · rw [hplace, start_closedNumber, stop_closedNumber]
  · rw [stop_closedNumber, ← hposition, ← Cursor.charAt?_of_chars hcode] at hpoint
    refine Mode.startsRange_number_iff.2 ⟨rfl, ?_, hpoint⟩
    rw [Pending.width, hposition]
    exact Nat.add_sub_cancel_left _ _
  · rw [stop_closedNumber]
    rfl

/-- Where a range starts, it is put out. -/
theorem Transition.excess (h : Transition cursor c mode s) (hd : mode.Describes cursor)
    (hc : cursor.current? = some c) (hexcess : Excess code tokens mode cursor fault) :
    Excess code (tokens ++ s.output.tokens) s.mode (cursor.advance s.advance) fault := by
  obtain ⟨p, hp, hplace, hrange⟩ := hexcess
  refine ⟨p, List.mem_append_left _ hp, hplace, fun hpoint => .inr ?_⟩
  rcases hrange hpoint with ⟨hstarts, hsettled⟩ | hmem
  · obtain ⟨q, hq, rfl⟩ := h.of_startsRange hd hc hstarts
    rw [Mode.settled_of_some hq] at hsettled
    rw [hsettled]
    exact List.mem_append_right _ List.mem_cons_self
  · exact List.mem_append_left _ hmem

theorem Reaches.excess (h : Reaches code mode cursor output) (hfault : fault ∈ output.faults)
    (hissue : fault.issue = .invalidNumber) : Excess code output.tokens mode cursor fault := by
  induction h with
  | start => exact absurd hfault List.not_mem_nil
  | step h hc ih =>
    have htransition := transition_step h.describes hc
    rcases List.mem_append.1 hfault with hfault | hfault
    · exact htransition.excess h.describes hc (ih hfault)
    · have hexcess := htransition.excess_of_mem h.chars hc hfault hissue
      exact hexcess.mono (List.subset_append_right _ _)

/-- A point too many in a line, and the range that it starts if a second point follows it. -/
theorem scan_excess (hfault : fault ∈ (scan code).faults) (hissue : fault.issue = .invalidNumber) :
    ∃ p ∈ (scan code).tokens, fault.place = .span p.start (p.stop + 1) ∧
      (code[p.stop + 1]? = some '.' →
        Token.ofSymbol .ellipsis p.stop (p.stop + 2) ∈ (scan code).tokens) := by
  obtain ⟨mode, cursor, output, hreach, hend, -, hscan⟩ := exists_reaches_scan code
  rw [hscan] at hfault ⊢
  have hold : fault ∈ output.faults := by
    apply (List.mem_append.1 hfault).resolve_right
    intro hnew
    rcases finishes_finish hreach.describes hend with ⟨-, hempty⟩ | ⟨faults, t, hfin, heq⟩
    · rw [hempty] at hnew
      exact absurd hnew List.not_mem_nil
    · rw [heq] at hnew
      exact nomatch (hfin.issue_eq hnew).symm.trans hissue
  obtain ⟨p, hp, hplace, hrange⟩ := hreach.excess hold hissue
  refine ⟨p, List.mem_append_left _ hp, hplace, fun hpoint => List.mem_append_left _ ?_⟩
  rcases hrange hpoint with ⟨hstarts, -⟩ | hmem
  · rw [Mode.startsRange_of_end hend] at hstarts
    exact absurd hstarts Bool.false_ne_true
  · exact hmem

/-- What overlaps a point too many and the part of the number in front of it is this part, or the
range that the point starts. -/
theorem eq_or_eq_of_meets {p u : Token} (ht : t ∈ (scan code).tokens)
    (hp : p ∈ (scan code).tokens) (hu : u ∈ (scan code).tokens) (hstart : u.start = p.stop)
    (hmeets : (Place.span p.start (p.stop + 1)).Meets t.start t.stop) : t = p ∨ t = u := by
  obtain ⟨hbefore, hbehind⟩ := hmeets
  have htiles := scan_tiles code
  have hpositive := htiles.bounds u hu
  rcases htiles.eq_or_disjoint ht hp with heq | hleft | hright
  · exact .inl heq
  · omega
  · rcases htiles.eq_or_disjoint ht hu with heq | hleft | hright
    · exact .inr heq
    · have hpositive := htiles.bounds t ht
      omega
    · omega

end

end Scan

/-! ## The diagnostics of a line -/

/-- A diagnostic with one location marks a token that it overlaps, unless it is about a point too
many in a number, another point follows that one, and the part of the number in front of the two
is not marked. -/
theorem tokenize_marked (line : Line) (d : Diagnostic) (hd : d ∈ line.tokenize.2)
    (location : Location) (hlocation : d.locations = .single location) :
    (∃ t ∈ line.tokenize.1, t.invalid = true ∧ t.overlaps location = true) ↔
      ¬(d.issue = SyntaxIssue.invalidNumber.code ∧
        line.code.toList[location.stop]? = some '.' ∧
        ∃ p ∈ line.tokenize.1, p.stop + 1 = location.stop ∧ p.invalid = false) := by
  obtain ⟨⟨issue, place⟩, hfault, rfl⟩ := List.mem_map.1 hd
  cases place with
  | gap column => exact nomatch hlocation
  | span start stop =>
    obtain rfl := Locations.single.inj hlocation
    have hmeets_iff : ∀ t : Token,
        t.overlaps ⟨line.number, line.level, start, stop⟩ = true ↔
          (Scan.Place.span start stop).Meets t.start t.stop := fun t => Token.overlaps_iff
    constructor
    · rintro ⟨t, ht, hinvalid, hoverlaps⟩ ⟨hissue, hpoint, p, hp, hstop, hvalid⟩
      obtain rfl : issue = .invalidNumber := SyntaxIssue.code_injective hissue
      obtain ⟨p', hp', hplace, hrange⟩ := Scan.scan_excess hfault rfl
      injection hplace with hstart hstop'
      have htiles := Scan.scan_tiles line.code.toList
      have hsame : p'.stop = p.stop := Nat.add_right_cancel (hstop'.symm.trans hstop.symm)
      obtain rfl : p' = p := htiles.eq_of_stop_eq hp' hp hsame
      rw [hmeets_iff, hstart, hstop'] at hoverlaps
      -- the location overlaps two tokens: the part of the number, and the range
      have hellipsis := hrange (hstop' ▸ hpoint)
      rcases Scan.eq_or_eq_of_meets ht hp hellipsis rfl hoverlaps with rfl | rfl
      · exact absurd (hvalid.symm.trans hinvalid) Bool.false_ne_true
      · exact Bool.noConfusion hinvalid
    · intro hkept
      rcases Scan.scan_accounted hfault rfl with ⟨t, ht, hinvalid, hmeets⟩ | herased
      · exact ⟨t, ht, hinvalid, (hmeets_iff t).2 hmeets⟩
      · obtain ⟨p, hp, hvalid, hplace, hpoint⟩ := herased.part
        injection hplace with hstart hstop
        rw [← hstop] at hpoint
        have hissue : issue = .invalidNumber := herased.issue
        exact absurd ⟨congrArg SyntaxIssue.code hissue, hpoint, p, hp, hstop.symm, hvalid⟩ hkept

/-- The third point starts a range, but the part of the number in front of it is marked for the
second point. -/
theorem tokenize_marked_fraction :
    Diagnostic.ofIssue .invalidNumber (.single ⟨1, 0, 3, 6⟩) ∈
        (⟨1, 0, "2.5.1..9", none⟩ : Line).tokenize.2 ∧
      ∃ t ∈ (⟨1, 0, "2.5.1..9", none⟩ : Line).tokenize.1,
        t.invalid = true ∧ t.overlaps ⟨1, 0, 3, 6⟩ = true := by
  have htokens : (⟨1, 0, "2.5.1..9", none⟩ : Line).tokenize =
      ([⟨.integer, .text "2", 0, 1, false⟩, ⟨.fraction, .text "5", 1, 3, false⟩,
        ⟨.fraction, .text "1", 3, 5, true⟩, .ofSymbol .ellipsis 5 7,
        ⟨.integer, .text "9", 7, 8, false⟩],
       [.ofIssue .invalidNumber (.single ⟨1, 0, 1, 4⟩),
        .ofIssue .invalidNumber (.single ⟨1, 0, 3, 6⟩)]) := by cbv
  have hmem : Diagnostic.ofIssue .invalidNumber (.single ⟨1, 0, 3, 6⟩) ∈
      (⟨1, 0, "2.5.1..9", none⟩ : Line).tokenize.2 := by
    rw [htokens]
    exact List.mem_cons_of_mem _ List.mem_cons_self
  refine ⟨hmem, (tokenize_marked _ _ hmem _ rfl).2 ?_⟩
  rintro ⟨-, -, hvalid⟩
  rw [htokens] at hvalid
  exact absurd hvalid (by decide)

/-- The second point of a number is reported and starts a range, and no token is marked. -/
theorem not_marked_range :
    Diagnostic.ofIssue .invalidNumber (.single ⟨1, 0, 1, 4⟩) ∈
        (⟨1, 0, "1.2..3", none⟩ : Line).tokenize.2 ∧
      ∀ t ∈ (⟨1, 0, "1.2..3", none⟩ : Line).tokenize.1, t.invalid = false := by
  have htokens : (⟨1, 0, "1.2..3", none⟩ : Line).tokenize =
      ([⟨.integer, .text "1", 0, 1, false⟩, ⟨.fraction, .text "2", 1, 3, false⟩,
        .ofSymbol .ellipsis 3 5, ⟨.integer, .text "3", 5, 6, false⟩],
       [.ofIssue .invalidNumber (.single ⟨1, 0, 1, 4⟩)]) := by cbv
  rw [htokens]
  exact ⟨List.mem_cons_self, by decide⟩

end LineLexer
