import LineLexer.Proofs.Fault
import LineLexer.Proofs.Lexeme

/-!
# Missing separations

Names, integers and quoted literals need a separation from a name, a literal or a symbol that
is not demarcating. `tokenize_separation` says exactly when a missing one is reported: always,
except at a sign that no number stands in front of. A sign is held back as a symbol before it
turns out to lead a name in, and meanwhile it is forgotten that the mode before it asked for a
separation; only a number looks at the sign itself, unless a repetend has closed it.

`Mode.Separates` is what a mode knows about the token before it, and is kept by every
transition. The converse is a fact about single transitions: a gap at a sign is put out
together with a number in front of it.
-/

namespace LineLexer

/-! ## Tokens that need a separation -/

/-- A token from which names and literals need a separation. -/
def Token.needsSeparation (t : Token) : Bool :=
  t.category.isName || t.category == .keyword || t.category.isNumber || t.category.isQuoting ||
    match t.category, t.lexeme with
    | .punctuation, .symbol s => !s.demarcating
    | _, _ => false

/-- A token that needs a separation from what stands before it. -/
def Token.takesSeparation (t : Token) : Bool :=
  t.category.isName || t.category == .keyword || t.category.isInteger || t.category.isQuoting

/-- A part of a number that does not end in the parenthesis of a repetend. -/
def Token.isBareNumber (code : List Char) (t : Token) : Bool :=
  t.category.isNumber && (t.raw code).getLast? != some ')'

/-- There is a sign at a column. -/
def signAt (code : List Char) (column : Nat) : Bool :=
  code[column]?.any CharClass.isSign

/-- The issues of a missing separation, by what stands behind it. -/
def separationIssues : List SyntaxIssue :=
  [.missingDemarcation, .missingDemarcationFromNumber, .missingDemarcationFromString]

/-- A missing separation before a column is among the diagnostics of a line. -/
def Line.ReportsGap (line : Line) (column : Nat) : Prop :=
  ∃ issue ∈ separationIssues,
    Diagnostic.ofIssue issue
      (.pair ⟨line.number, line.level, column - 1, column⟩
        ⟨line.number, line.level, column, column + 1⟩) ∈ line.tokenize.2

/-- A token that ends where another one of the run ends is that one. -/
theorem Tiles.eq_of_stop_eq {a b : Nat} {ts : List Token} {t u : Token} (h : Tiles a ts b)
    (ht : t ∈ ts) (hu : u ∈ ts) (hstop : t.stop = u.stop) : t = u := by
  have hbounds := h.bounds t ht
  have hbounds' := h.bounds u hu
  rcases h.eq_or_disjoint ht hu with heq | hleft | hright
  · exact heq
  · omega
  · omega

namespace Scan

/-- A missing separation before a column is among the faults. -/
def GapAt (faults : List Fault) (column : Nat) : Prop :=
  ∃ issue ∈ separationIssues, (⟨issue, .gap column⟩ : Fault) ∈ faults

/-- The boundary behind a token is reported, unless it is a sign that stands there and no number
looked at it. -/
def Reported (code : List Char) (faults : List Fault) (p : Token) : Prop :=
  (signAt code p.stop = true → p.isBareNumber code = true) → GapAt faults p.stop

/-- What a mode knows about a token that ends where the text not yet put out starts. -/
def Mode.Separates (code : List Char) (faults : List Fault) (p : Token) : Mode → Prop
  | .demarcated | .word _ | .doubleQuoted _ | .singleQuoted _ => Reported code faults p
  | .undemarcated => signAt code p.stop = true → p.isBareNumber code = false
  | .symbol _ => signAt code p.stop = true → Reported code faults p
  | .number pending _ => pending.category.isInteger = true → Reported code faults p
  | .whitespace _ | .documentation => True

section
variable {code : List Char} {faults more : List Fault} {p t : Token} {mode next : Mode}

theorem GapAt.mono {column : Nat} (h : GapAt faults column) (more : List Fault) :
    GapAt (faults ++ more) column := by
  obtain ⟨issue, hissue, hmem⟩ := h
  exact ⟨issue, hissue, List.mem_append_left more hmem⟩

theorem Reported.mono (h : Reported code faults p) (more : List Fault) :
    Reported code (faults ++ more) p :=
  fun hflag => (h hflag).mono more

/-! ## The categories of the tokens put out -/

theorem isNumber_tag {category : Category} (h : category.isNumber = false)
    (text? : Option String) (start stop : Nat) (invalid : Bool) :
    (Token.tag category text? start stop invalid).category.isNumber = false := by
  cases text? with
  | none => rfl
  | some text =>
    simp only [Token.tag, Token.classify]
    split
    · split <;> first | rfl | exact h
    · exact h

theorem isBareNumber_eq_false (h : t.category.isNumber = false) : t.isBareNumber code = false := by
  rw [Token.isBareNumber, h]
  rfl

/-- Of the parts of a number, only an integer needs a separation from what stands before it. -/
theorem isInteger_of_takesSeparation (hnumber : t.category.isNumber = true)
    (h : t.takesSeparation = true) : t.category.isInteger = true := by
  unfold Token.takesSeparation at h
  cases hcat : t.category <;> rw [hcat] at h hnumber <;>
    first | rfl | exact absurd h (by decide) | exact absurd hnumber (by decide)

theorem isNumber_token_name {p : Pending} (h : p.category.isName = true) (cursor : Cursor)
    (lexemeStop stop : Nat) : (p.token cursor lexemeStop stop).category.isNumber = false := by
  unfold Pending.token
  split
  · rfl
  · refine isNumber_tag ?_ _ _ _ _
    cases hcat : p.category <;> rw [hcat] at h <;> first | rfl | exact absurd h (by decide)

theorem isNumber_token_quoting {p : Pending} (h : p.category.isQuoting = true) (cursor : Cursor)
    (lexemeStop stop : Nat) : (p.token cursor lexemeStop stop).category.isNumber = false := by
  rw [(Pending.token_of_isLiteral cursor (.inr h) _ _).1]
  cases hcat : p.category <;> rw [hcat] at h <;> first | rfl | exact absurd h (by decide)

/-- A symbol leads to the mode that it calls for. -/
theorem separates_after (s : Symbol) (faults : List Fault) (start stop : Nat)
    (h : (Token.ofSymbol s start stop).needsSeparation = true) :
    (Mode.after s).Separates code faults (.ofSymbol s start stop) := by
  cases hdem : s.demarcating with
  | true =>
    have hneeds : (Token.ofSymbol s start stop).needsSeparation = !s.demarcating := rfl
    rw [hneeds, hdem] at h
    exact nomatch h
  | false =>
    rw [Mode.after, hdem]
    exact fun _ => isBareNumber_eq_false rfl

end

/-! ## What transitions keep -/

section
variable {code : List Char} {cursor : Cursor} {c : Char} {faults more : List Fault} {p t : Token}
  {mode next : Mode} {n : Nat}

theorem signAt_position (hcode : cursor.chars = code.toArray) (hc : cursor.current? = some c) :
    signAt code cursor.position = CharClass.isSign c := by
  rw [signAt, ← Cursor.charAt?_of_chars hcode]
  exact congrArg (Option.any CharClass.isSign) hc

/-- A lexeme that needs a separation and does not start with a sign is opened with the boundary
reported, if there is no separation. -/
theorem reported_gapUnless {separated : Bool} {issue : SyntaxIssue}
    (hissue : issue ∈ separationIssues) (hp : p.stop = cursor.position)
    (h : (Mode.between separated).Separates code faults p) :
    Reported code (faults ++ gapUnless separated issue cursor.position) p := by
  cases separated with
  | true => exact Reported.mono h _
  | false =>
    intro _
    rw [hp]
    exact ⟨issue, hissue, List.mem_append_right faults (List.mem_singleton.2 rfl)⟩

theorem Opens.separates {separated : Bool} (h : Opens cursor c separated more next)
    (hp : p.stop = cursor.position) (hm : (Mode.between separated).Separates code faults p) :
    next.Separates code (faults ++ more) p := by
  cases h with
  | tab | space => trivial
  | number => exact fun _ => reported_gapUnless (by decide) hp hm
  | capitalized | uncapitalized | doubleQuoted | singleQuoted =>
    exact reported_gapUnless (by decide) hp hm
  | symbol h hs hambiguous =>
    intro hsign
    rw [List.append_nil]
    cases separated with
    | true => exact hm
    | false =>
      -- no number is in front, so nothing is promised about a sign
      intro hflag
      exact absurd (hflag hsign) (by rw [hm hsign]; decide)

theorem Resumes.separates (h : Resumes cursor c mode more next n)
    (hcode : cursor.chars = code.toArray) (hp : mode.settled cursor = p.stop)
    (hm : mode.Separates code faults p) : next.Separates code (faults ++ more) p := by
  cases h with
  | space | tab => trivial
  | @signed q first hfirst hsign h =>
    have hstart : q.start = p.stop := hp
    refine Reported.mono (hm ?_) _
    rw [Cursor.charAt?_of_chars hcode, hstart] at hfirst
    rw [signAt, hfirst]
    exact hsign
  | word | illegalInWord | binaryQuoted | hexQuoted | unknownQuoted => exact Reported.mono hm _
  | digit | illegalDigit => exact fun hint => (hm hint).mono _
  | binaryMark hzero | hexMark hzero =>
    intro _
    refine Reported.mono (hm ?_) _
    simp only [isLoneZero, Bool.and_eq_true, beq_iff_eq] at hzero
    rw [hzero.1.1]
    rfl
  | doubleQuoted | singleQuoted | doubledQuote => exact Reported.mono hm _

/-- A whole token needs no separation from what stands before it. -/
theorem Emits.takesSeparation (h : Emits cursor c more t next n) : t.takesSeparation = false := by
  cases h with
  | symbol | documentation => rfl
  | illegal h =>
    simp only [Token.tag, Token.classify, Reserved.ofSpelling?_of_other h]
    rfl

theorem Emits.separates (h : Emits cursor c more t next n) (hneeds : t.needsSeparation = true) :
    next.Separates code (faults ++ more) t := by
  cases h with
  | symbol h hs hu => exact separates_after _ _ _ _ hneeds
  | illegal h =>
    simp only [Token.tag, Token.classify, Reserved.ofSpelling?_of_other h] at hneeds
    exact absurd hneeds Bool.false_ne_true
  | documentation h => trivial

/-- Of the parts of a number, only the integer needs a separation, and it knows about it. -/
theorem NumberText.reported {q : Pending} {radix : Radix} {text : List Char}
    (h : NumberText q radix text) (hcat : t.category = q.category)
    (htakes : t.takesSeparation = true) (hm : (Mode.number q radix).Separates code faults p) :
    Reported code faults p := by
  have hnumber := h.isNumber
  refine hm ?_
  rw [← hcat] at hnumber ⊢
  exact isInteger_of_takesSeparation hnumber htakes

/-- The token under construction knows about the boundary it starts at. -/
theorem Closes.reported (h : Closes cursor c mode more t next n) (hd : mode.Describes cursor)
    (htakes : t.takesSeparation = true) (hm : mode.Separates code faults p) :
    Reported code faults p := by
  cases h with
  | whitespace =>
    rw [Pending.token, if_pos (BlankText.category hd)] at htakes
    exact absurd htakes Bool.false_ne_true
  | pair | symbol | range => exact absurd htakes Bool.false_ne_true
  | predicate | word | doubleQuoted | singleQuoted => exact hm
  | repetend =>
    have hliteral := NumberText.isNumber hd
    exact NumberText.reported hd (Pending.token_of_isLiteral cursor (.inl hliteral) _ _).1 htakes hm
  | numberGap | number =>
    exact NumberText.reported hd (category_closedNumber cursor hd _) htakes hm

/-- A token that takes its delimiter along ends with it. -/
theorem getLast?_raw_delimited {q : Pending} {lexemeStop : Nat} (hcode : cursor.chars = code.toArray)
    (hstart : q.start < cursor.position) (hc : cursor.current? = some c) :
    ((q.token cursor lexemeStop (cursor.position + 1)).raw code).getLast? = some c := by
  rw [raw_eq_slice hcode, Pending.start_token, Pending.stop_token,
    Cursor.slice_succ (Nat.le_of_lt hstart) hc, List.getLast?_append]
  rfl

/-- The mode behind a token knows about the boundary it ends at. -/
theorem Closes.separates (h : Closes cursor c mode more t next n)
    (hcode : cursor.chars = code.toArray) (hd : mode.Describes cursor)
    (hc : cursor.current? = some c) (hneeds : t.needsSeparation = true) :
    next.Separates code (faults ++ more) t := by
  cases h with
  | whitespace =>
    rw [Pending.token, if_pos (BlankText.category hd)] at hneeds
    exact absurd hneeds Bool.false_ne_true
  | pair | symbol => exact separates_after _ _ _ _ hneeds
  | range => exact absurd hneeds Bool.false_ne_true
  | @predicate q h =>
    intro _
    exact isBareNumber_eq_false (isNumber_token_name (p := q.recast .predicate) rfl _ _ _)
  | word =>
    intro _
    exact isBareNumber_eq_false (isNumber_token_name (WordText.category hd) _ _ _)
  | @repetend q radix h hrep =>
    intro _
    have hstart : q.start < cursor.position := hd.start_lt rfl
    rw [Token.isBareNumber, getLast?_raw_delimited hcode hstart hc, h]
    simp
  | numberGap h =>
    intro _
    rw [stop_closedNumber]
    exact ⟨_, by decide, List.mem_append_right faults List.mem_cons_self⟩
  | number h hnogap =>
    intro hsign
    rw [stop_closedNumber, signAt_position hcode hc] at hsign
    exact absurd (List.mem_cons.2 (.inl (CharClass.of_eq_sign_iff.2 hsign))) hnogap
  | doubleQuoted =>
    intro _
    exact isBareNumber_eq_false (isNumber_token_quoting (DoubleText.isQuoting hd) _ _ _)
  | singleQuoted =>
    intro _
    exact isBareNumber_eq_false (isNumber_token_quoting (SingleText.isQuoting hd) _ _ _)

theorem HandsOver.reported (h : HandsOver cursor c mode more t next) (hd : mode.Describes cursor)
    (htakes : t.takesSeparation = true) (hm : mode.Separates code faults p) :
    Reported code faults p := by
  cases h with
  | fraction | repetend | pointless =>
    have hliteral := NumberText.isNumber hd
    exact NumberText.reported hd (Pending.token_of_isLiteral cursor (.inl hliteral) _ _).1 htakes hm
  | secondPoint => exact NumberText.reported hd (category_closedNumber cursor hd _) htakes hm

/-- Fractions and repetends need no separation. -/
theorem HandsOver.separates (h : HandsOver cursor c mode more t next) :
    next.Separates code (faults ++ more) t := by
  cases h <;> exact fun hint => absurd hint Bool.false_ne_true

theorem Finishes.reported (h : Finishes cursor mode more t) (hd : mode.Describes cursor)
    (htakes : t.takesSeparation = true) (hm : mode.Separates code faults p) :
    Reported code faults p := by
  cases h with
  | whitespace =>
    rw [Pending.token, if_pos (BlankText.category hd)] at htakes
    exact absurd htakes Bool.false_ne_true
  | symbol => exact absurd htakes Bool.false_ne_true
  | word | doubleQuoted | singleQuoted => exact hm
  | number => exact NumberText.reported hd (category_closedNumber cursor hd _) htakes hm

/-- Inside a part of a number there is no closing parenthesis. -/
theorem NumberText.not_mem {q : Pending} {radix : Radix} {text : List Char}
    (h : NumberText q radix text) : ')' ∉ text := by
  intro hmem
  rcases h.alphanumeric_or_lead hmem with halpha | hpoint | hparenthesis
  · exact absurd halpha (by unfold IsAlphanumeric; decide)
  · exact absurd hpoint (by decide)
  · exact absurd hparenthesis (by decide)

/-- A part of a number that ends where its text ends has no parenthesis at its end. -/
theorem NumberText.isBareNumber {q : Pending} {radix : Radix} (hcode : cursor.chars = code.toArray)
    (h : NumberText q radix (q.text cursor)) (hcat : t.category = q.category)
    (hstart : t.start = q.start) (hstop : t.stop = cursor.position) :
    t.isBareNumber code = true := by
  have hraw : t.raw code = q.text cursor := by
    rw [raw_eq_slice hcode, hstart, hstop]
    rfl
  have hlast : (q.text cursor).getLast? ≠ some ')' := by
    intro hlast
    exact h.not_mem (List.mem_of_getLast? hlast)
  rw [Token.isBareNumber, hcat, h.isNumber, hraw]
  simpa using hlast

theorem isBareNumber_closedNumber {q : Pending} {radix : Radix}
    (hcode : cursor.chars = code.toArray) (h : NumberText q radix (q.text cursor)) :
    (closedNumber cursor q cursor.position).isBareNumber code = true :=
  h.isBareNumber hcode (category_closedNumber cursor h _) (start_closedNumber _ _ _)
    (stop_closedNumber _ _ _)

/-- A gap at a sign is reported only by a number in front of it. -/
theorem Transition.isBareNumber_of_gap {s : Step} {issue : SyntaxIssue} {column : Nat}
    (h : Transition cursor c mode s) (hcode : cursor.chars = code.toArray)
    (hd : mode.Describes cursor) (hc : cursor.current? = some c)
    (hgap : (⟨issue, .gap column⟩ : Fault) ∈ s.output.faults) (hsign : signAt code column = true) :
    ∃ t ∈ s.output.tokens, t.stop = column ∧ t.isBareNumber code = true := by
  obtain ⟨rfl, ⟨-, hclass⟩ | ⟨-, p, radix, rfl, -, htokens⟩⟩ := h.of_gap_mem hgap
  · rw [signAt_position hcode hc, ← CharClass.of_eq_sign_iff] at hsign
    rw [hsign] at hclass
    exact nomatch hclass
  · rw [htokens]
    refine ⟨_, List.mem_singleton.2 rfl, ?_, isBareNumber_closedNumber hcode hd⟩
    rw [stop_closedNumber]

end

/-! ## Along a run -/

/-- What is known in a reachable state: about the boundaries between the tokens put out so far, and
about the boundary behind the last of them. -/
structure Separated (code : List Char) (mode : Mode) (cursor : Cursor) (output : Output) :
    Prop where
  pairs : ∀ p ∈ output.tokens, ∀ q ∈ output.tokens, p.stop = q.start →
    p.needsSeparation = true → q.takesSeparation = true → Reported code output.faults p
  last : ∀ p ∈ output.tokens, p.stop = mode.settled cursor → p.needsSeparation = true →
    mode.Separates code output.faults p

section
variable {code : List Char} {cursor : Cursor} {mode next : Mode} {output : Output} {c : Char}
  {more : List Fault} {t : Token}

/-- Without a new token, only what the mode knows has to be kept. -/
theorem Separated.silent (h : Separated code mode cursor output) {cursor' : Cursor}
    (hsettled : next.settled cursor' = mode.settled cursor)
    (hkeep : ∀ p, p.stop = mode.settled cursor → mode.Separates code output.faults p →
      next.Separates code (output.faults ++ more) p) :
    Separated code next cursor' (output ++ ⟨[], more⟩) := by
  have htokens : (output ++ ⟨[], more⟩ : Output).tokens = output.tokens := List.append_nil _
  refine ⟨?_, ?_⟩
  · rw [htokens]
    intro p hp q hq hadj hneeds htakes
    exact (h.pairs p hp q hq hadj hneeds htakes).mono more
  · rw [htokens, hsettled]
    intro p hp hstop hneeds
    exact hkeep p hstop (h.last p hp hstop hneeds)

/-- A new token is told about by the mode before it, and known to the mode behind it. -/
theorem Separated.emitted (h : Separated code mode cursor output) {cursor' : Cursor}
    (htiles : Tiles 0 output.tokens (mode.settled cursor))
    (hstart : t.start = mode.settled cursor) (hlt : t.start < t.stop)
    (hstop : next.settled cursor' = t.stop)
    (htold : ∀ p, p.stop = mode.settled cursor → t.takesSeparation = true →
      mode.Separates code output.faults p → Reported code output.faults p)
    (hknown : t.needsSeparation = true → next.Separates code (output.faults ++ more) t) :
    Separated code next cursor' (output ++ ⟨[t], more⟩) := by
  refine ⟨fun p hp q hq hadj hneeds htakes => ?_, fun p hp hlast hneeds => ?_⟩
  · rcases List.mem_append.1 hp with hold | hnew <;> rcases List.mem_append.1 hq with hold' | hnew'
    · exact (h.pairs p hold q hold' hadj hneeds htakes).mono more
    · rw [List.mem_singleton.1 hnew'] at hadj htakes
      have hend := hadj.trans hstart
      exact (htold p hend htakes (h.last p hold hend hneeds)).mono more
    -- nothing starts behind the new token yet
    · rw [List.mem_singleton.1 hnew] at hadj
      have hbounds := htiles.bounds q hold'
      omega
    · rw [List.mem_singleton.1 hnew, List.mem_singleton.1 hnew'] at hadj
      omega
  · rcases List.mem_append.1 hp with hold | hnew
    · have hbounds := htiles.bounds p hold
      omega
    · rw [List.mem_singleton.1 hnew] at hneeds ⊢
      exact hknown hneeds

theorem Transition.separated {s : Step} (h : Transition cursor c mode s)
    (hcode : cursor.chars = code.toArray) (hd : mode.Describes cursor)
    (hc : cursor.current? = some c) (htiles : Tiles 0 output.tokens (mode.settled cursor))
    (hsep : Separated code mode cursor output) :
    Separated code s.mode (cursor.advance s.advance) (output ++ s.output) := by
  have hnew := h.tiles hd hc
  cases h with
  | opens h =>
    refine hsep.silent hnew.symm fun p hp hm => h.separates ?_ hm
    rw [hp, Mode.settled_between]
  | emits h =>
    refine hsep.emitted htiles hnew.1 hnew.2.1 hnew.2.2.symm ?_ h.separates
    intro p _ htakes
    rw [h.takesSeparation] at htakes
    exact absurd htakes Bool.false_ne_true
  | resumes h => exact hsep.silent hnew.symm fun p hp hm => h.separates hcode hp.symm hm
  | closes h =>
    exact hsep.emitted htiles hnew.1 hnew.2.1 hnew.2.2.symm (fun p _ => h.reported hd)
      (h.separates hcode hd hc)
  | handsOver h =>
    exact hsep.emitted htiles hnew.1 hnew.2.1 hnew.2.2.symm (fun p _ => h.reported hd)
      fun _ => h.separates

/-- In every reachable state the boundaries passed so far are dealt with. -/
theorem Reaches.separated (h : Reaches code mode cursor output) :
    Separated code mode cursor output := by
  induction h with
  | start => exact ⟨fun _ hp => absurd hp List.not_mem_nil, fun _ hp => absurd hp List.not_mem_nil⟩
  | step h hc ih =>
    exact (transition_step h.describes hc).separated h.chars h.describes hc h.tiles ih

theorem Reaches.isBareNumber_of_gap {issue : SyntaxIssue} {column : Nat}
    (h : Reaches code mode cursor output)
    (hgap : (⟨issue, .gap column⟩ : Fault) ∈ output.faults) (hsign : signAt code column = true) :
    ∃ t ∈ output.tokens, t.stop = column ∧ t.isBareNumber code = true := by
  induction h with
  | start => exact absurd hgap List.not_mem_nil
  | step h hc ih =>
    rcases List.mem_append.1 hgap with hgap | hgap
    · obtain ⟨t, ht, hbare⟩ := ih hgap
      exact ⟨t, List.mem_append_left _ ht, hbare⟩
    · obtain ⟨t, ht, hbare⟩ :=
        (transition_step h.describes hc).isBareNumber_of_gap h.chars h.describes hc hgap hsign
      exact ⟨t, List.mem_append_right _ ht, hbare⟩

/-- The boundaries between the tokens of a line are reported, as far as `Reported` asks for it. -/
theorem scan_reported {p q : Token} (hp : p ∈ (scan code).tokens) (hq : q ∈ (scan code).tokens)
    (hadj : p.stop = q.start) (hneeds : p.needsSeparation = true)
    (htakes : q.takesSeparation = true) : Reported code (scan code).faults p := by
  obtain ⟨mode, cursor, output, hreach, hend, -, hscan⟩ := exists_reaches_scan code
  rw [hscan] at hp hq ⊢
  rcases finishes_finish hreach.describes hend with ⟨-, hempty⟩ | ⟨faults, t, hfin, heq⟩
  · rw [hempty, Output.append_empty] at hp hq ⊢
    exact hreach.separated.pairs p hp q hq hadj hneeds htakes
  · rw [heq] at hp hq ⊢
    obtain ⟨pending, hpending, hstart, hstop⟩ := hfin.span
    have hlt := hreach.describes.start_lt hpending
    have hsettled : mode.settled cursor = pending.start := Mode.settled_of_some hpending
    rw [← hsettled] at hstart
    -- nothing follows the last token, so any mode that asks for nothing will do behind it
    have hsep : Separated code .documentation cursor (output ++ ⟨[t], faults⟩) := by
      refine hreach.separated.emitted hreach.tiles hstart ?_ ?_ ?_ fun _ => trivial
      · omega
      · rw [hstop]
        exact hend
      · exact fun _ _ => hfin.reported hreach.describes
    exact hsep.pairs p hp q hq hadj hneeds htakes

/-- A gap at a sign is reported only if a number ends there. -/
theorem scan_isBareNumber_of_gap {issue : SyntaxIssue} {column : Nat}
    (hgap : (⟨issue, .gap column⟩ : Fault) ∈ (scan code).faults)
    (hsign : signAt code column = true) :
    ∃ t ∈ (scan code).tokens, t.stop = column ∧ t.isBareNumber code = true := by
  obtain ⟨mode, cursor, output, hreach, hend, -, hscan⟩ := exists_reaches_scan code
  rw [hscan] at hgap ⊢
  rcases List.mem_append.1 hgap with hgap | hgap
  · obtain ⟨t, ht, hbare⟩ := hreach.isBareNumber_of_gap hgap hsign
    exact ⟨t, List.mem_append_left _ ht, hbare⟩
  · exact absurd hgap (not_gap_mem_finish hreach.describes hend)

end

end Scan

/-! ## The diagnostics of a line -/

theorem SyntaxIssue.code_injective {issue issue' : SyntaxIssue} (h : issue.code = issue'.code) :
    issue = issue' := by
  have hfound := ofCode?_code issue
  rw [h, ofCode?_code] at hfound
  exact (Option.some.inj hfound).symm

/-- A fault is told apart by its diagnostic, if it is at a boundary. -/
theorem Scan.Fault.eq_gap_of_diagnostic {fault : Scan.Fault} {number level column : Nat}
    {issue : SyntaxIssue}
    (h : fault.diagnostic number level =
      (⟨issue, .gap column⟩ : Scan.Fault).diagnostic number level) :
    fault = ⟨issue, .gap column⟩ := by
  obtain ⟨issue', place⟩ := fault
  injection h with _ hissue hplace
  obtain rfl : issue' = issue := SyntaxIssue.code_injective hissue
  obtain rfl : place = .gap column := Scan.Place.locations_eq_gap_iff.1 hplace
  rfl

theorem Line.reportsGap_iff (line : Line) (column : Nat) :
    line.ReportsGap column ↔ Scan.GapAt (Scan.scan line.code.toList).faults column := by
  constructor
  · rintro ⟨issue, hissue, hmem⟩
    obtain ⟨fault, hfault, heq⟩ := List.mem_map.1 hmem
    refine ⟨issue, hissue, ?_⟩
    have hgap : fault = ⟨issue, .gap column⟩ := Scan.Fault.eq_gap_of_diagnostic heq
    rwa [hgap] at hfault
  · rintro ⟨issue, hissue, hmem⟩
    exact ⟨issue, hissue, List.mem_map.2 ⟨_, hmem, rfl⟩⟩

/-- Where a token follows another one without the separation it needs from it, the boundary is
reported exactly if no sign stands there, or if it is a number that ends there without a closing
parenthesis. -/
theorem tokenize_separation (line : Line) (p q : Token) (hp : p ∈ line.tokenize.1)
    (hq : q ∈ line.tokenize.1) (hadj : p.stop = q.start) (hneeds : p.needsSeparation = true)
    (htakes : q.takesSeparation = true) :
    line.ReportsGap q.start ↔
      (signAt line.code.toList q.start = true → p.isBareNumber line.code.toList = true) := by
  rw [line.reportsGap_iff, ← hadj]
  constructor
  · rintro ⟨issue, -, hgap⟩ hsign
    obtain ⟨t, ht, hstop, hbare⟩ := Scan.scan_isBareNumber_of_gap hgap hsign
    obtain rfl := (Scan.scan_tiles line.code.toList).eq_of_stop_eq ht hp hstop
    exact hbare
  · exact Scan.scan_reported hp hq hadj hneeds htakes

/-- A signed name right behind a number. -/
theorem tokenize_separation_number :
    (⟨1, 0, "7-b", none⟩ : Line).tokenize.1 =
        [⟨.integer, .text "7", 0, 1, false⟩, ⟨.label, .text "-b", 1, 3, false⟩] ∧
      (⟨1, 0, "7-b", none⟩ : Line).ReportsGap 1 := by
  have htokens : (⟨1, 0, "7-b", none⟩ : Line).tokenize.1 =
      [⟨.integer, .text "7", 0, 1, false⟩, ⟨.label, .text "-b", 1, 3, false⟩] := by cbv
  refine ⟨htokens, (tokenize_separation ⟨1, 0, "7-b", none⟩ ⟨.integer, .text "7", 0, 1, false⟩
    ⟨.label, .text "-b", 1, 3, false⟩ ?_ ?_ rfl rfl rfl).2 fun _ => by decide +kernel⟩
  · rw [htokens]
    exact List.mem_cons_self
  · rw [htokens]
    exact List.mem_cons_of_mem _ List.mem_cons_self

/-- A signed name right behind a predicate is overlooked. -/
theorem not_reportsGap_predicate :
    (⟨1, 0, "a?-b", none⟩ : Line).tokenize.1 =
        [⟨.predicate, .text "a?", 0, 2, false⟩, ⟨.label, .text "-b", 2, 4, false⟩] ∧
      (⟨.predicate, .text "a?", 0, 2, false⟩ : Token).needsSeparation = true ∧
      (⟨.label, .text "-b", 2, 4, false⟩ : Token).takesSeparation = true ∧
      ¬(⟨1, 0, "a?-b", none⟩ : Line).ReportsGap 2 := by
  have htokens : (⟨1, 0, "a?-b", none⟩ : Line).tokenize =
      ([⟨.predicate, .text "a?", 0, 2, false⟩, ⟨.label, .text "-b", 2, 4, false⟩], []) := by cbv
  refine ⟨by rw [htokens], rfl, rfl, ?_⟩
  rintro ⟨issue, -, hmem⟩
  rw [htokens] at hmem
  exact absurd hmem List.not_mem_nil

end LineLexer
