import LineLexer.Line
import LineLexer.Proofs.Execution
import LineLexer.Proofs.Fault

/-!
# Marks and the faults behind them

A fault marks the token under construction as invalid, and the mark has to live through all that
becomes of the token: a word turns out to be a predicate or to announce a literal, a zero to be the
start of a binary number. `Blames` says how faults and marks go together, and every transition
keeps to it but one: a point that turns out to start a range is put out without its mark.

* `Place.Meets`: a place and a run of columns have a column in common;
* `Blames`: what faults do to a mark;
* `Flagged`: the columns of the tokens that are marked, as long as the mark lasts;
* `tokenize_explained`: every marked token has a diagnostic about it.
-/

namespace LineLexer

/-- A token and a location have a column in common. -/
def Token.overlaps (t : Token) (location : Location) : Bool :=
  location.start < t.stop && t.start < location.stop

theorem Token.overlaps_iff {t : Token} {location : Location} :
    t.overlaps location = true ↔ location.start < t.stop ∧ t.start < location.stop := by
  unfold overlaps
  rw [Bool.and_eq_true, decide_eq_true_eq, decide_eq_true_eq]

namespace Scan

/-! ## Places and columns -/

/-- A place and a run of columns have a column in common. -/
def Place.Meets (start stop : Nat) : Place → Prop
  | .span first last => first < stop ∧ start < last
  | .gap column => column - 1 < stop ∧ start < column ∨ column < stop ∧ start < column + 1

theorem Place.Meets.mono {start stop stop' : Nat} {place : Place} (h : place.Meets start stop)
    (hle : stop ≤ stop') : place.Meets start stop' := by
  cases place with
  | span first last =>
    obtain ⟨hfirst, hlast⟩ := h
    exact ⟨Nat.lt_of_lt_of_le hfirst hle, hlast⟩
  | gap column =>
    rcases h with ⟨hbefore, hlt⟩ | ⟨hafter, hlt⟩
    · exact .inl ⟨Nat.lt_of_lt_of_le hbefore hle, hlt⟩
    · exact .inr ⟨Nat.lt_of_lt_of_le hafter hle, hlt⟩

/-- A place meets the columns of a token if one of its locations does. -/
theorem Place.meets_iff_overlaps {t : Token} {place : Place} (number level : Nat) :
    place.Meets t.start t.stop ↔
      ∃ location ∈ (place.locations number level).toList, t.overlaps location = true := by
  cases place with
  | span first last => simp [Meets, locations, Locations.toList, Token.overlaps_iff]
  | gap column => simp [Meets, locations, Locations.toList, Token.overlaps_iff]

/-- A boundary meets what starts behind it. -/
theorem Place.meets_gap (column : Nat) : (Place.gap column).Meets column (column + 1) :=
  .inr ⟨Nat.lt_succ_self column, Nat.lt_succ_self column⟩

/-- A character meets every run of columns that ends with it. -/
theorem Place.meets_character {start column : Nat} (h : start ≤ column) :
    (Place.span column (column + 1)).Meets start (column + 1) :=
  ⟨Nat.lt_succ_self column, Nat.lt_succ_of_le h⟩

/-- One of the faults meets the columns. -/
def Explains (faults : List Fault) (start stop : Nat) : Prop :=
  ∃ fault ∈ faults, fault.place.Meets start stop

theorem Explains.mono {faults faults' : List Fault} {start stop stop' : Nat}
    (h : Explains faults start stop) (hsubset : faults ⊆ faults') (hle : stop ≤ stop') :
    Explains faults' start stop' := by
  obtain ⟨fault, hfault, hmeets⟩ := h
  exact ⟨fault, hsubset hfault, hmeets.mono hle⟩

/-! ## What faults do to a mark -/

/-- Faults about some columns, and the mark of these columns before and after. -/
structure Blames (faults : List Fault) (start stop : Nat) (before after : Bool) : Prop where
  /-- A mark stays. -/
  kept : before = true → after = true
  /-- A fault that is no boundary is about these columns and leaves a mark. -/
  marked : ∀ fault ∈ faults, fault.isGap = false → after = true ∧ fault.place.Meets start stop
  /-- A new mark is due to a fault about these columns. -/
  due : after = true → before = true ∨ Explains faults start stop

namespace Blames

theorem silent (start stop : Nat) (mark : Bool) : Blames [] start stop mark mark :=
  ⟨id, fun _ hmem => absurd hmem List.not_mem_nil, .inl⟩

theorem single {fault : Fault} {start stop : Nat} (h : fault.place.Meets start stop)
    (before : Bool) : Blames [fault] start stop before true := by
  refine ⟨fun _ => rfl, ?_, fun _ => .inr ⟨fault, List.mem_singleton.2 rfl, h⟩⟩
  exact List.forall_mem_singleton.2 fun _ => ⟨rfl, h⟩

/-- A boundary changes nothing. -/
theorem cons_gap {faults : List Fault} {start stop : Nat} {before after : Bool}
    (h : Blames faults start stop before after) (issue : SyntaxIssue) (column : Nat) :
    Blames (⟨issue, .gap column⟩ :: faults) start stop before after := by
  refine ⟨h.kept, ?_, fun hafter => ?_⟩
  · exact List.forall_mem_cons.2 ⟨fun hgap => Bool.noConfusion hgap, h.marked⟩
  · rcases h.due hafter with hbefore | ⟨fault, hfault, hmeets⟩
    · exact .inl hbefore
    · exact .inr ⟨fault, List.mem_cons_of_mem _ hfault, hmeets⟩

end Blames

/-- A lexeme that is opened without a separation is marked. -/
theorem blames_gapUnless (separated : Bool) (issue : SyntaxIssue) (column : Nat) :
    Blames (gapUnless separated issue column) column (column + 1) false (!separated) := by
  cases separated with
  | true => exact Blames.silent _ _ _
  | false => exact Blames.single (Place.meets_gap column) _

/-- A repetend that is closed without its parenthesis is marked. -/
theorem blames_closingFaults {p : Pending} {stop : Nat} (h : p.start < stop) (cursor : Cursor) :
    Blames (closingFaults p stop) p.start stop p.invalid (closedNumber cursor p stop).invalid := by
  have hmeets : (Place.span p.start stop).Meets p.start stop := ⟨h, h⟩
  unfold closingFaults closedNumber
  split
  · rw [Pending.invalid_token]
    exact Blames.single hmeets _
  · rw [Pending.invalid_token]
    exact Blames.silent _ _ _

/-- A symbol that is held back has no mark to lose. -/
theorem blames_held {p : Pending} {cursor : Cursor} (h : (Mode.symbol p).Describes cursor)
    (start stop : Nat) : Blames [] start stop p.invalid false := by
  rw [HeldText.invalid_eq_false h]
  exact Blames.silent _ _ _

/-! ## Marks that do not last -/

/-- The token under construction is a point, and another one follows: the two are a range. -/
def Mode.startsRange (cursor : Cursor) : Mode → Bool
  | .number p _ =>
    p.category == .fraction && p.width cursor.position == 1 && cursor.current? == some '.'
  | _ => false

section
variable {code : List Char} {cursor : Cursor} {c : Char} {mode next : Mode} {faults : List Fault}
  {t : Token} {n : Nat} {p q : Pending} {radix : Radix}

theorem Mode.startsRange_number_iff :
    (Mode.number p radix).startsRange cursor = true ↔
      p.category = .fraction ∧ p.width cursor.position = 1 ∧ cursor.current? = some '.' := by
  simp only [startsRange, Bool.and_eq_true, beq_iff_eq, and_assoc]

/-- At the end of the line no range starts. -/
theorem Mode.startsRange_of_end (h : cursor.position = cursor.size) :
    mode.startsRange cursor = false := by
  apply eq_false_of_ne_true
  intro hrange
  cases mode with
  | number p radix =>
    obtain ⟨-, -, hpoint⟩ := startsRange_number_iff.1 hrange
    have hlt := Cursor.position_lt_of_current? hpoint
    omega
  | demarcated | undemarcated | whitespace | symbol | word | doubleQuoted | singleQuoted
  | documentation => exact nomatch hrange

/-- A point that starts a range is put out together with the point behind it. -/
theorem Transition.of_startsRange {s : Step} (h : Transition cursor c mode s)
    (hd : mode.Describes cursor) (hc : cursor.current? = some c)
    (hrange : mode.startsRange cursor = true) :
    ∃ p, mode.pending? = some p ∧
      s = ⟨⟨[.ofSymbol .ellipsis p.start (p.start + 2)], []⟩, .demarcated, 1⟩ := by
  cases mode with
  | number p radix =>
    obtain ⟨hcat, hwidth, hpoint⟩ := Mode.startsRange_number_iff.1 hrange
    obtain rfl : c = '.' := Option.some.inj (hc.symm.trans hpoint)
    have hclose : Closes cursor '.' (.number p radix) _ _ _ _ := .range rfl hcat hwidth
    have hposition : cursor.position + 1 = p.start + 2 := by
      unfold Pending.width at hwidth
      omega
    rw [← h.step_eq hd, hclose.step_eq hd, hposition]
    exact ⟨p, rfl, rfl⟩
  | demarcated | undemarcated | whitespace | symbol | word | doubleQuoted | singleQuoted
  | documentation => exact nomatch hrange

/-! ## Marks and transitions -/

theorem Opens.blames {separated : Bool} (h : Opens cursor c separated faults next)
    (hq : next.pending? = some q) :
    Blames faults q.start (cursor.position + 1) false q.invalid := by
  cases h with
  | tab =>
    obtain rfl := Option.some.inj hq
    exact Blames.single (Place.meets_character (Nat.le_refl _)) _
  | space | symbol =>
    obtain rfl := Option.some.inj hq
    exact Blames.silent _ _ _
  | number | capitalized | uncapitalized | doubleQuoted | singleQuoted =>
    obtain rfl := Option.some.inj hq
    exact blames_gapUnless separated _ _

theorem Opens.startsRange {separated : Bool} (h : Opens cursor c separated faults next)
    (cursor' : Cursor) : next.startsRange cursor' = false := by
  cases h <;> rfl

theorem Emits.blames (h : Emits cursor c faults t next n) :
    Blames faults t.start t.stop false t.invalid := by
  cases h with
  | symbol => exact Blames.silent _ _ _
  | illegal =>
    rw [start_tag, stop_tag, invalid_tag]
    exact Blames.single (Place.meets_character (Nat.le_refl _)) _
  | documentation =>
    rw [invalid_tag]
    exact Blames.silent _ _ _

theorem Resumes.blames (h : Resumes cursor c mode faults next n) (hd : mode.Describes cursor)
    (hp : mode.pending? = some p) (hq : next.pending? = some q) :
    Blames faults p.start (cursor.position + n) p.invalid q.invalid := by
  have hlt := hd.start_lt hp
  cases h with
  | tab | illegalInWord | illegalDigit =>
    obtain rfl := Option.some.inj hp
    obtain rfl := Option.some.inj hq
    exact Blames.single (Place.meets_character (Nat.le_of_lt hlt)) _
  | @unknownQuoted p =>
    obtain rfl := Option.some.inj hp
    obtain rfl := Option.some.inj hq
    have hmeets : (Place.span p.start (p.start + 1)).Meets p.start (cursor.position + 1) :=
      ⟨Nat.lt_succ_of_lt hlt, Nat.lt_succ_self _⟩
    exact Blames.single hmeets _
  | space | signed | word | binaryQuoted | hexQuoted | digit | binaryMark | hexMark | doubleQuoted
  | singleQuoted | doubledQuote =>
    obtain rfl := Option.some.inj hp
    obtain rfl := Option.some.inj hq
    exact Blames.silent _ _ _

/-- A token that goes on has two characters at least. -/
theorem Resumes.startsRange (h : Resumes cursor c mode faults next n) (hd : mode.Describes cursor)
    (hc : cursor.current? = some c) : next.startsRange (cursor.advance n) = false := by
  apply eq_false_of_ne_true
  intro hrange
  obtain ⟨p, q, hp, hq, hstart⟩ := h.pending?
  have hlt := hd.start_lt hp
  have hposition : cursor.position + 1 ≤ (cursor.advance n).position := by
    have hpos : 0 < n := by
      rcases h.advance_eq with rfl | ⟨rfl, -, -⟩ <;> omega
    have hle : cursor.position + n ≤ cursor.size := (Transition.resumes h).advance_le hc
    rw [Cursor.position_advance hle]
    omega
  cases next with
  | number q' radix =>
    obtain rfl : q' = q := Option.some.inj hq
    obtain ⟨-, hwidth, -⟩ := Mode.startsRange_number_iff.1 hrange
    unfold Pending.width at hwidth
    omega
  | demarcated | undemarcated | whitespace | symbol | word | doubleQuoted | singleQuoted
  | documentation => exact nomatch hrange

/-- A token takes its mark along when it is put out, unless it is the start of a range. -/
theorem Closes.blames (h : Closes cursor c mode faults t next n) (hd : mode.Describes cursor)
    (hc : cursor.current? = some c) (hlasts : mode.startsRange cursor = false)
    (hp : mode.pending? = some p) : Blames faults t.start t.stop p.invalid t.invalid := by
  have hlt := hd.start_lt hp
  cases h with
  | whitespace | word | repetend | doubleQuoted | singleQuoted | predicate =>
    obtain rfl := Option.some.inj hp
    rw [Pending.invalid_token]
    exact Blames.silent _ _ _
  | pair | symbol =>
    obtain rfl := Option.some.inj hp
    exact blames_held hd _ _
  | @range p radix hpoint hcat hwidth =>
    -- the one transition that drops a mark is ruled out here
    obtain rfl := Option.some.inj hp
    rw [hpoint] at hc
    have hrange : (Mode.number p radix).startsRange cursor = true :=
      Mode.startsRange_number_iff.2 ⟨hcat, hwidth, hc⟩
    exact absurd (hlasts.symm.trans hrange) Bool.false_ne_true
  | numberGap =>
    obtain rfl := Option.some.inj hp
    rw [start_closedNumber, stop_closedNumber]
    exact (blames_closingFaults hlt cursor).cons_gap _ _
  | number =>
    obtain rfl := Option.some.inj hp
    rw [start_closedNumber, stop_closedNumber]
    exact blames_closingFaults hlt cursor

/-- The faults are about the part that is put out, or about the one that is opened. -/
theorem HandsOver.blames (h : HandsOver cursor c mode faults t next) (hd : mode.Describes cursor)
    (hp : mode.pending? = some p) (hq : next.pending? = some q) :
    ∃ closing opening, faults = closing ++ opening ∧
      Blames closing t.start t.stop p.invalid t.invalid ∧
      Blames opening q.start (cursor.position + 1) false q.invalid := by
  have hlt := hd.start_lt hp
  have hpart : (Place.span p.start (cursor.position + 1)).Meets cursor.position
      (cursor.position + 1) :=
    ⟨Nat.lt_succ_of_lt hlt, Nat.lt_succ_self _⟩
  cases h with
  | fraction | repetend =>
    obtain rfl := Option.some.inj hp
    obtain rfl := Option.some.inj hq
    refine ⟨[], [], rfl, ?_, Blames.silent _ _ _⟩
    rw [Pending.invalid_token]
    exact Blames.silent _ _ _
  | pointless =>
    obtain rfl := Option.some.inj hp
    obtain rfl := Option.some.inj hq
    refine ⟨[], _, rfl, ?_, Blames.single hpart _⟩
    rw [Pending.invalid_token]
    exact Blames.silent _ _ _
  | secondPoint =>
    obtain rfl := Option.some.inj hp
    obtain rfl := Option.some.inj hq
    refine ⟨_, _, rfl, ?_, Blames.single hpart _⟩
    rw [start_closedNumber, stop_closedNumber]
    exact blames_closingFaults hlt cursor

theorem Finishes.blames (h : Finishes cursor mode faults t) (hd : mode.Describes cursor)
    (hend : cursor.position = cursor.size) (hp : mode.pending? = some p) :
    Blames faults t.start t.stop p.invalid t.invalid := by
  have hlt := hd.start_lt hp
  cases h with
  | whitespace | word | doubleQuoted | singleQuoted =>
    obtain rfl := Option.some.inj hp
    rw [Pending.invalid_token]
    exact Blames.silent _ _ _
  | symbol =>
    obtain rfl := Option.some.inj hp
    exact blames_held hd _ _
  | number =>
    obtain rfl := Option.some.inj hp
    rw [start_closedNumber, stop_closedNumber]
    exact blames_closingFaults (hend ▸ hlt) cursor

end

/-! ## Flagged columns -/

/-- The columns of a token that is marked: of one that has been put out, or of the one under
construction if it keeps its mark. -/
inductive Flagged (tokens : List Token) (mode : Mode) (cursor : Cursor) : Nat → Nat → Prop
  | token {t : Token} (mem : t ∈ tokens) (invalid : t.invalid = true) :
      Flagged tokens mode cursor t.start t.stop
  | pending {p : Pending} (hp : mode.pending? = some p) (lasts : mode.startsRange cursor = false)
      (invalid : p.invalid = true) : Flagged tokens mode cursor p.start cursor.position

section
variable {code : List Char} {cursor : Cursor} {c : Char} {mode next : Mode} {output : Output}
  {tokens more : List Token} {t : Token} {p : Pending} {start stop : Nat} {s : Step}

theorem Flagged.mono (h : Flagged tokens mode cursor start stop) (hsubset : tokens ⊆ more) :
    Flagged more mode cursor start stop := by
  cases h with
  | token hmem hinvalid => exact .token (hsubset hmem) hinvalid
  | pending hp hlasts hinvalid => exact .pending hp hlasts hinvalid

/-- Between two lexemes nothing is flagged but tokens that have been put out. -/
theorem not_flagged_nil (h : mode.pending? = none) : ¬Flagged [] mode cursor start stop := by
  intro hflag
  cases hflag with
  | token hmem => exact absurd hmem List.not_mem_nil
  | pending hp => exact nomatch h.symm.trans hp

/-- The mark of a token that a transition puts out was there before, or is explained by a fault of
the transition. -/
theorem Transition.due_of_token (h : Transition cursor c mode s) (hd : mode.Describes cursor)
    (hc : cursor.current? = some c) (ht : t ∈ s.output.tokens) (hinvalid : t.invalid = true) :
    Flagged [] mode cursor t.start cursor.position ∧ cursor.position ≤ t.stop ∨
      Explains s.output.faults t.start t.stop := by
  cases hrange : mode.startsRange cursor with
  | true =>
    -- a range has no mark
    obtain ⟨p, -, rfl⟩ := h.of_startsRange hd hc hrange
    rw [List.mem_singleton.1 ht] at hinvalid
    exact Bool.noConfusion hinvalid
  | false =>
    have hkept : ∀ {p : Pending}, mode.pending? = some p → p.invalid = true →
        p.start = t.start → Flagged [] mode cursor t.start cursor.position := by
      intro p hp hmark hstart
      rw [← hstart]
      exact .pending hp hrange hmark
    cases h with
    | opens | resumes => exact absurd ht List.not_mem_nil
    | emits h =>
      obtain rfl := List.mem_singleton.1 ht
      exact .inr ((h.blames.due hinvalid).resolve_left Bool.false_ne_true)
    | closes h =>
      obtain rfl := List.mem_singleton.1 ht
      obtain ⟨-, -, p, hp, hstart, hstop⟩ := h.span
      rcases (h.blames hd hc hrange hp).due hinvalid with hmark | hexplains
      · exact .inl ⟨hkept hp hmark hstart.symm, by omega⟩
      · exact .inr hexplains
    | handsOver h =>
      obtain rfl := List.mem_singleton.1 ht
      obtain ⟨p, q, hp, hq, hstart, hstop, -⟩ := h.span
      obtain ⟨closing, opening, rfl, hblames, -⟩ := h.blames hd hp hq
      rcases hblames.due hinvalid with hmark | hexplains
      · exact .inl ⟨hkept hp hmark hstart.symm, Nat.le_of_eq hstop.symm⟩
      · exact .inr (hexplains.mono (List.subset_append_left _ _) (Nat.le_refl _))

/-- The mark of the token under construction was there before the transition, or is explained by a
fault of the transition. -/
theorem Transition.due_of_pending {q : Pending} (h : Transition cursor c mode s)
    (hd : mode.Describes cursor) (hc : cursor.current? = some c) (hq : s.mode.pending? = some q)
    (hinvalid : q.invalid = true) :
    Flagged [] mode cursor q.start cursor.position ∨
      Explains s.output.faults q.start (cursor.advance s.advance).position := by
  cases hrange : mode.startsRange cursor with
  | true =>
    -- behind a range nothing is under construction
    obtain ⟨p, -, rfl⟩ := h.of_startsRange hd hc hrange
    exact nomatch hq
  | false =>
    cases h with
    | opens h =>
      rw [Cursor.position_advance_one hc]
      exact .inr (((h.blames hq).due hinvalid).resolve_left Bool.false_ne_true)
    | @resumes _ _ _ n h =>
      have hle : cursor.position + n ≤ cursor.size := (Transition.resumes h).advance_le hc
      obtain ⟨p, q', hp, hq', hstart⟩ := h.pending?
      obtain rfl : q' = q := Option.some.inj (hq'.symm.trans hq)
      rw [hstart, Cursor.position_advance hle]
      exact ((h.blames hd hp hq).due hinvalid).imp (.pending hp hrange) id
    | handsOver h =>
      obtain ⟨p, -, hp, -⟩ := h.span
      obtain ⟨closing, opening, rfl, -, hblames⟩ := h.blames hd hp hq
      have hexplains := (hblames.due hinvalid).resolve_left Bool.false_ne_true
      rw [Cursor.position_advance_one hc]
      exact .inr (hexplains.mono (List.subset_append_right _ _) (Nat.le_refl _))
    | emits h =>
      obtain ⟨hnone, -⟩ := h.span hc
      exact nomatch hnone.symm.trans hq
    | closes h =>
      obtain ⟨hbetween, -⟩ := h.span
      exact nomatch (Mode.pending?_eq_none_of_isBetween hbetween).symm.trans hq

/-- What is flagged is explained by a fault. -/
def Explained (mode : Mode) (cursor : Cursor) (output : Output) : Prop :=
  ∀ {start stop : Nat}, Flagged output.tokens mode cursor start stop →
    Explains output.faults start stop

theorem Transition.explained (h : Transition cursor c mode s) (hd : mode.Describes cursor)
    (hc : cursor.current? = some c) (hexplained : Explained mode cursor output) :
    Explained s.mode (cursor.advance s.advance) (output ++ s.output) := by
  have hbefore : ∀ {start stop stop' : Nat}, Flagged output.tokens mode cursor start stop →
      stop ≤ stop' → Explains (output.faults ++ s.output.faults) start stop' := by
    intro start stop stop' hflag hle
    exact (hexplained hflag).mono (List.subset_append_left _ _) hle
  have hafter : ∀ {start stop : Nat}, Explains s.output.faults start stop →
      Explains (output.faults ++ s.output.faults) start stop := by
    intro start stop hexplains
    exact hexplains.mono (List.subset_append_right _ _) (Nat.le_refl stop)
  intro start stop hflag
  cases hflag with
  | @token t hmem hinvalid =>
    rcases List.mem_append.1 hmem with hmem | hmem
    · exact hbefore (.token hmem hinvalid) (Nat.le_refl _)
    · rcases h.due_of_token hd hc hmem hinvalid with ⟨hflag, hle⟩ | hexplains
      · exact hbefore (hflag.mono (List.nil_subset _)) hle
      · exact hafter hexplains
  | pending hq _ hinvalid =>
    rcases h.due_of_pending hd hc hq hinvalid with hflag | hexplains
    · exact hbefore (hflag.mono (List.nil_subset _)) (Cursor.position_le_position_advance _ _)
    · exact hafter hexplains

/-- In every reachable state, what is flagged is explained by a fault. -/
theorem Reaches.explained (h : Reaches code mode cursor output) :
    Explained mode cursor output := by
  induction h with
  | start => exact fun hflag => absurd hflag (not_flagged_nil rfl)
  | step h hc ih => exact (transition_step h.describes hc).explained h.describes hc ih

/-- Every marked token of a line is explained by a fault. -/
theorem scan_explains (ht : t ∈ (scan code).tokens) (hinvalid : t.invalid = true) :
    Explains (scan code).faults t.start t.stop := by
  obtain ⟨mode, cursor, output, hreach, hend, -, hscan⟩ := exists_reaches_scan code
  rw [hscan] at ht ⊢
  rcases List.mem_append.1 ht with ht | ht
  · have hexplains := hreach.explained (.token ht hinvalid)
    exact hexplains.mono (List.subset_append_left _ _) (Nat.le_refl _)
  · rcases finishes_finish hreach.describes hend with ⟨-, hempty⟩ | ⟨faults, t', hfin, heq⟩
    · rw [hempty] at ht
      exact absurd ht List.not_mem_nil
    · rw [heq] at ht ⊢
      obtain rfl := List.mem_singleton.1 ht
      obtain ⟨p, hp, hstart, hstop⟩ := hfin.span
      -- the last token brings its mark along, or gets it for what it lacks
      rcases (hfin.blames hreach.describes hend hp).due hinvalid with hmark | hexplains
      · have hexplains := hreach.explained (.pending hp (Mode.startsRange_of_end hend) hmark)
        rw [hstart, hstop, ← hend]
        exact hexplains.mono (List.subset_append_left _ _) (Nat.le_refl _)
      · exact hexplains.mono (List.subset_append_right _ _) (Nat.le_refl _)

end

end Scan

/-- Every token that is marked has a diagnostic about it: one of the locations that the diagnostic
points at overlaps the token. -/
theorem tokenize_explained (line : Line) (t : Token) (ht : t ∈ line.tokenize.1)
    (hinvalid : t.invalid = true) :
    ∃ d ∈ line.tokenize.2, ∃ location ∈ d.locations.toList, t.overlaps location = true := by
  obtain ⟨fault, hfault, hmeets⟩ := Scan.scan_explains ht hinvalid
  have hlocation := (Scan.Place.meets_iff_overlaps line.number line.level).1 hmeets
  exact ⟨fault.diagnostic line.number line.level, List.mem_map_of_mem hfault, hlocation⟩

/-- A word right behind a literal is marked for the boundary between the two, and still is when it
turns out to be a predicate. -/
theorem tokenize_explained_predicate :
    (⟨.predicate, .text "a?", 3, 5, true⟩ : Token) ∈ (⟨1, 0, "\"s\"a?", none⟩ : Line).tokenize.1 ∧
      ∃ d ∈ (⟨1, 0, "\"s\"a?", none⟩ : Line).tokenize.2, ∃ location ∈ d.locations.toList,
        (⟨.predicate, .text "a?", 3, 5, true⟩ : Token).overlaps location = true := by
  have htokens : (⟨1, 0, "\"s\"a?", none⟩ : Line).tokenize.1 =
      [⟨.string, .text "s", 0, 3, false⟩, ⟨.predicate, .text "a?", 3, 5, true⟩] := by cbv
  have hmem : (⟨.predicate, .text "a?", 3, 5, true⟩ : Token) ∈
      (⟨1, 0, "\"s\"a?", none⟩ : Line).tokenize.1 := by
    rw [htokens]
    exact List.mem_cons_of_mem _ List.mem_cons_self
  exact ⟨hmem, tokenize_explained _ _ hmem rfl⟩

end LineLexer
