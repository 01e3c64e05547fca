import LineLexer.Proofs.Execution
import LineLexer.Proofs.Lexeme
import LineLexer.Proofs.Window

/-!
# Tokens on lines of their own

What a token is does not depend on what stands around it: on a line of its own it comes out
the same, and as the only one. Only fractions and repetends lean on the part of the number
before them. `tokenize_alone` says so of the tokens of a line.

The scan of the token's own line follows that of the whole line from where the token is opened.
The two differ in their columns, and in whether a fault has been found, since a missing
separation is one in the whole line only. `Mode.alone` is the mode with these differences, and
`Mode.Standalone` says that the own line leads there, whatever follows. Where the token is
closed by what stands behind it, the own line has ended.
-/

namespace LineLexer

/-- A token as it stands on a line of its own. -/
def Token.alone (t : Token) (invalid : Bool) : Token :=
  ⟨t.category, t.lexeme, 0, t.stop - t.start, invalid⟩

theorem Token.tag_alone (category : Category) (text? : Option String) (start stop : Nat)
    (flag invalid : Bool) : (Token.tag category text? start stop flag).alone invalid =
      .tag category text? 0 (stop - start) invalid := by
  cases text? <;> rfl

namespace Scan

/-! ## Two lines that agree on a token -/

/-- The token under construction as it stands on a line of its own. -/
def Pending.alone (p : Pending) (invalid : Bool) : Pending :=
  ⟨p.category, 0, p.offset, invalid⟩

/-- The mode on a line that starts with the token under construction. -/
def Mode.alone (invalid : Bool) : Mode → Mode
  | .whitespace p => .whitespace (p.alone invalid)
  | .symbol p => .symbol (p.alone invalid)
  | .word p => .word (p.alone invalid)
  | .number p radix => .number (p.alone invalid) radix
  | .doubleQuoted p => .doubleQuoted (p.alone invalid)
  | .singleQuoted p => .singleQuoted (p.alone invalid)
  | .demarcated => .demarcated
  | .undemarcated => .undemarcated
  | .documentation => .documentation

/-- A cursor that has before it what another one has before it from a column on. -/
structure Echoes (start : Nat) (inner outer : Cursor) : Prop where
  position_eq : inner.position + start = outer.position
  charAt?_eq : ∀ i < inner.position, inner.charAt? i = outer.charAt? (i + start)

section
variable {inner outer : Cursor} {c : Char} {mode next : Mode} {faults : List Fault} {t : Token}
  {p q : Pending} {n start : Nat} {invalid : Bool}

namespace Echoes

/-- A line that starts with the text of a token, with the cursor behind that. -/
theorem of_text {more : List Char} (hcode : inner.chars = (p.text outer ++ more).toArray)
    (hlt : p.start < outer.position) (hposition : inner.position = (p.text outer).length) :
    Echoes p.start inner outer := by
  have hlength : (p.text outer).length = outer.position - p.start :=
    Cursor.length_slice outer.position_le_size
  constructor
  · omega
  · intro i hi
    rw [Cursor.charAt?_of_chars hcode, List.getElem?_append_left (by omega), Nat.add_comm i,
      Pending.text, Cursor.getElem?_slice (by omega)]

theorem charAt?_zero (h : Echoes start inner outer) (hlt : start < outer.position) :
    inner.charAt? 0 = outer.charAt? start := by
  have hposition := h.position_eq
  rw [h.charAt?_eq 0 (by omega), Nat.zero_add]

theorem previous? (h : Echoes start inner outer) (hlt : start < outer.position) :
    inner.previous? = outer.previous? := by
  have hposition := h.position_eq
  have hprevious : inner.position - 1 + start = outer.position - 1 := by omega
  rw [Cursor.previous?, Cursor.previous?, if_neg (by omega), if_neg (by omega),
    h.charAt?_eq _ (by omega), hprevious]

theorem width (h : Echoes p.start inner outer) (invalid : Bool) :
    (p.alone invalid).width inner.position = p.width outer.position := by
  have hposition := h.position_eq
  show inner.position - 0 = outer.position - p.start
  omega

theorem isLoneZero (h : Echoes p.start inner outer) (hlt : p.start < outer.position)
    (invalid : Bool) : isLoneZero inner (p.alone invalid) = isLoneZero outer p := by
  have hzero : inner.charAt? (p.alone invalid).start = outer.charAt? p.start := h.charAt?_zero hlt
  simp only [Scan.isLoneZero, h.width, hzero]
  rfl

theorem slice (h : Echoes start inner outer) (i : Nat) :
    inner.slice i inner.position = outer.slice (i + start) outer.position := by
  have hposition := h.position_eq
  refine List.ext_getElem? fun k => ?_
  by_cases hk : i + k < inner.position
  · have hcolumn : i + k + start = i + start + k := by omega
    rw [Cursor.getElem?_slice hk, Cursor.getElem?_slice (by omega), h.charAt?_eq _ hk, hcolumn]
  · rw [List.getElem?_eq_none, List.getElem?_eq_none]
    · rw [Cursor.length_slice outer.position_le_size]
      omega
    · rw [Cursor.length_slice inner.position_le_size]
      omega

/-- Both cursors take the same character. -/
theorem advance_one (h : Echoes start inner outer) (hinner : inner.current? = some c)
    (houter : outer.current? = some c) : Echoes start (inner.advance 1) (outer.advance 1) := by
  have hposition := h.position_eq
  constructor
  · rw [Cursor.position_advance_one hinner, Cursor.position_advance_one houter]
    omega
  · intro i hi
    rw [Cursor.position_advance_one hinner] at hi
    rw [Cursor.charAt?_advance, Cursor.charAt?_advance]
    by_cases hlt : i < inner.position
    · exact h.charAt?_eq i hlt
    · obtain rfl : i = inner.position := by omega
      rw [hposition]
      exact hinner.trans houter.symm

end Echoes

/-! ## Transitions on the line of a token -/

/-- A token is opened on its own line without a fault, except for a tab. -/
theorem Opens.alone {separated : Bool} (h : Opens outer c separated faults next)
    (hq : next.pending? = some q) (code : List Char) :
    ∃ invalid faults, Opens (Cursor.ofList code) c true faults (next.alone invalid) ∧
      (invalid = true → q.invalid = true) ∧ (invalid = false → faults = []) := by
  have hclean : ∀ {next' : Mode}, Opens (Cursor.ofList code) c true [] (next'.alone false) →
      ∃ invalid faults, Opens (Cursor.ofList code) c true faults (next'.alone invalid) ∧
        (invalid = true → q.invalid = true) ∧ (invalid = false → faults = []) := by
    intro next' hopens
    exact ⟨false, [], hopens, (nomatch ·), fun _ => rfl⟩
  cases h with
  | tab h =>
    obtain rfl := Option.some.inj hq
    exact ⟨true, _, .tab h, fun _ => rfl, fun hfalse => nomatch hfalse⟩
  | space h => exact hclean (.space h)
  | number h => exact hclean (.number h)
  | capitalized h => exact hclean (.capitalized h)
  | uncapitalized h => exact hclean (.uncapitalized h)
  | doubleQuoted h => exact hclean (.doubleQuoted h)
  | singleQuoted h => exact hclean (.singleQuoted h)
  | symbol h hs hambiguous => exact hclean (.symbol h hs hambiguous)

/-- A token goes on in the same way on its own line. -/
theorem Resumes.alone (h : Resumes outer c mode faults next n) (hd : mode.Describes outer)
    (hp : mode.pending? = some p) (hq : next.pending? = some q)
    (hechoes : Echoes p.start inner outer) (hpeek : n = 2 → inner.peek? 1 = some '\'')
    (hinvalid : invalid = true → p.invalid = true) :
    ∃ invalid' faults', Resumes inner c (mode.alone invalid) faults' (next.alone invalid') n ∧
      (invalid' = true → q.invalid = true) ∧
      (invalid' = false → invalid = false ∧ faults' = []) := by
  have hlt : p.start < outer.position := hd.start_lt hp
  have hfirst : inner.charAt? 0 = outer.charAt? p.start := hechoes.charAt?_zero hlt
  have hwidth := hechoes.width invalid
  have hzero := hechoes.isLoneZero hlt invalid
  -- a transition without a fault keeps the flag, one with a fault sets it
  have hkeep : q.invalid = p.invalid →
      Resumes inner c (mode.alone invalid) [] (next.alone invalid) n →
      ∃ invalid' faults', Resumes inner c (mode.alone invalid) faults' (next.alone invalid') n ∧
        (invalid' = true → q.invalid = true) ∧
        (invalid' = false → invalid = false ∧ faults' = []) := by
    intro hflag hresumes
    exact ⟨invalid, [], hresumes, fun h => hflag.trans (hinvalid h), fun h => ⟨h, rfl⟩⟩
  have hset : ∀ {faults'}, q.invalid = true →
      Resumes inner c (mode.alone invalid) faults' (next.alone true) n →
      ∃ invalid' faults', Resumes inner c (mode.alone invalid) faults' (next.alone invalid') n ∧
        (invalid' = true → q.invalid = true) ∧
        (invalid' = false → invalid = false ∧ faults' = []) := by
    intro faults' hflag hresumes
    exact ⟨true, faults', hresumes, fun _ => hflag, (nomatch ·)⟩
  cases h with
  | space h =>
    cases hp
    cases hq
    exact hkeep rfl (.space h)
  | tab h =>
    cases hp
    cases hq
    exact hset rfl (.tab h)
  | signed hchar hsign h =>
    cases hp
    cases hq
    exact hkeep rfl (.signed (hfirst.trans hchar) hsign h)
  | word h =>
    cases hp
    cases hq
    exact hkeep rfl (.word h)
  | illegalInWord h =>
    cases hp
    cases hq
    exact hset rfl (.illegalInWord h)
  | binaryQuoted h hone hchar hmark =>
    cases hp
    cases hq
    exact hkeep rfl (.binaryQuoted h (hwidth.trans hone) (hfirst.trans hchar) hmark)
  | hexQuoted h hone hchar hmark =>
    cases hp
    cases hq
    exact hkeep rfl (.hexQuoted h (hwidth.trans hone) (hfirst.trans hchar) hmark)
  | unknownQuoted h hone hchar hbinary hhex =>
    cases hp
    cases hq
    exact hset rfl (.unknownQuoted h (hwidth.trans hone) (hfirst.trans hchar) hbinary hhex)
  | digit h hlegal =>
    cases hp
    cases hq
    exact hkeep rfl (.digit h hlegal)
  | illegalDigit h hillegal hunmarked =>
    cases hp
    cases hq
    exact hset rfl (.illegalDigit h hillegal fun hlone => hunmarked (hzero.symm.trans hlone))
  | binaryMark hlone hmark =>
    cases hp
    cases hq
    exact hkeep rfl (.binaryMark (hzero.trans hlone) hmark)
  | hexMark hlone hmark =>
    cases hp
    cases hq
    exact hkeep rfl (.hexMark (hzero.trans hlone) hmark)
  | doubleQuoted h =>
    cases hp
    cases hq
    refine hkeep rfl (.doubleQuoted fun hc => ?_)
    rw [hechoes.previous? hlt]
    exact h hc
  | singleQuoted h =>
    cases hp
    cases hq
    exact hkeep rfl (.singleQuoted h)
  | doubledQuote h _ =>
    cases hp
    cases hq
    exact hkeep rfl (.doubledQuote h (hpeek rfl))

end

/-! ## The way to a token under construction -/

/-- A line that starts with the text of the token under construction leads to the same mode,
whatever follows. Parts of a number behind a point or a parenthesis are left out: their text
is something else at the start of a line. -/
def Mode.Standalone (mode : Mode) (cursor : Cursor) : Prop :=
  ∀ p, mode.pending? = some p → p.category ≠ .fraction → p.category ≠ .repetend → ∀ more,
    ∃ invalid faults inner,
      Reaches (p.text cursor ++ more) (mode.alone invalid) inner ⟨[], faults⟩ ∧
      inner.position = (p.text cursor).length ∧ (invalid = true → p.invalid = true) ∧
      (invalid = false → faults = [])

section
variable {code : List Char} {cursor inner : Cursor} {c : Char} {mode next : Mode}
  {faults : List Fault} {output : Output} {t : Token} {p : Pending} {n : Nat}

/-- A listed transition leads on. -/
theorem Reaches.transition {s : Step} (h : Reaches code mode cursor output)
    (hc : cursor.current? = some c) (htransition : Transition cursor c mode s) :
    Reaches code s.mode (cursor.advance s.advance) (output ++ s.output) := by
  have hnext := h.step hc
  rwa [htransition.step_eq h.describes] at hnext

theorem standalone_of_none (h : mode.pending? = none) : mode.Standalone cursor := by
  intro p hp
  exact nomatch h.symm.trans hp

theorem Opens.standalone {separated : Bool} (h : Opens cursor c separated faults next)
    (hc : cursor.current? = some c) : next.Standalone (cursor.advance 1) := by
  intro q hq _ _ more
  obtain ⟨p, hp, hstart⟩ := h.pending?
  obtain rfl : p = q := Option.some.inj (hp.symm.trans hq)
  have htext : p.text (cursor.advance 1) = [c] := Pending.text_opened hstart hc
  obtain ⟨invalid, faults', hopens, hinvalid, hfaults⟩ := h.alone hq ([c] ++ more)
  have hstart : Reaches ([c] ++ more) .demarcated (Cursor.ofList ([c] ++ more)) .empty := .start
  have hcurrent : (Cursor.ofList ([c] ++ more)).current? = some c := Cursor.charAt?_ofList _ 0
  have hreach := hstart.transition hcurrent (.opens hopens)
  rw [htext]
  exact ⟨invalid, faults', _, hreach, Cursor.position_advance_one hcurrent, hinvalid, hfaults⟩

theorem ne_of_isName {category : Category} (h : category.isName = true) :
    category ≠ .fraction ∧ category ≠ .repetend := by
  cases category <;> first | exact absurd h (by decide) | exact ⟨by decide, by decide⟩

/-- A token does not stop being a fraction or a repetend. -/
theorem Resumes.category_eq {q : Pending} (h : Resumes cursor c mode faults next n)
    (hd : mode.Describes cursor) (hp : mode.pending? = some p) (hq : next.pending? = some q) :
    q.category = p.category ∨ p.category ≠ .fraction ∧ p.category ≠ .repetend := by
  have hzero : isLoneZero cursor p = true → p.category ≠ .fraction ∧ p.category ≠ .repetend := by
    intro hlone
    simp only [isLoneZero, Bool.and_eq_true, beq_iff_eq] at hlone
    rw [hlone.1.1]
    decide
  cases h with
  | space | tab | word | illegalInWord | digit | illegalDigit | doubleQuoted | singleQuoted
  | doubledQuote =>
    cases hp
    cases hq
    exact .inl rfl
  | signed =>
    cases hp
    have hcat : _ = Category.punctuation := congrArg Pending.category (HeldText.opened hd)
    rw [hcat]
    exact .inr (by decide)
  | binaryQuoted | hexQuoted | unknownQuoted =>
    cases hp
    exact .inr (ne_of_isName (WordText.category hd))
  | binaryMark hlone | hexMark hlone =>
    cases hp
    exact .inr (hzero hlone)

theorem Resumes.standalone (h : Resumes cursor c mode faults next n) (hd : mode.Describes cursor)
    (hc : cursor.current? = some c) (hmode : mode.Standalone cursor) :
    next.Standalone (cursor.advance n) := by
  intro q hq hfraction hrepetend more
  obtain ⟨p, q', hp, hq', hstart⟩ := h.pending?
  obtain rfl : q' = q := Option.some.inj (hq'.symm.trans hq)
  have hlt : p.start < cursor.position := hd.start_lt hp
  have hle : cursor.position + n ≤ cursor.size := (Transition.resumes h).advance_le hc
  have hcases := h.advance_eq
  have hcategory : p.category ≠ .fraction ∧ p.category ≠ .repetend := by
    rcases h.category_eq hd hp hq with hsame | hother
    · rw [← hsame]
      exact ⟨hfraction, hrepetend⟩
    · exact hother
  -- what the transition takes stands behind the text so far on the own line as well
  have htaken : ∃ taken, cursor.slice cursor.position (cursor.position + n) = taken := ⟨_, rfl⟩
  obtain ⟨taken, htaken⟩ := htaken
  have htext : q'.text (cursor.advance n) = p.text cursor ++ taken := by
    rw [Pending.text, Cursor.slice_advance, Cursor.position_advance hle, hstart, ← htaken]
    exact (Cursor.slice_append (Nat.le_of_lt hlt) (Nat.le_add_right _ _)).symm
  have hlength : taken.length = n := by
    rw [← htaken, Cursor.length_slice hle]
    omega
  obtain ⟨invalid, faults₀, inner, hreach, hposition, hinvalid, hfaults⟩ :=
    hmode p hp hcategory.1 hcategory.2 (taken ++ more)
  have hchar : ∀ i < n,
      inner.charAt? (inner.position + i) = cursor.charAt? (cursor.position + i) := by
    intro i hi
    rw [Cursor.charAt?_of_chars hreach.chars, hposition, List.getElem?_append_right (by omega),
      Nat.add_sub_cancel_left, List.getElem?_append_left (by omega), ← htaken,
      Cursor.getElem?_slice (by omega)]
  have hcurrent : inner.current? = some c := (hchar 0 (by omega)).trans hc
  have hpeek : n = 2 → inner.peek? 1 = some '\'' := by
    intro htwo
    rcases hcases with hone | ⟨-, -, hnext⟩
    · omega
    · exact (hchar 1 (by omega)).trans hnext
  obtain ⟨invalid', faults', hresumes, hinvalid', hfaults'⟩ := h.alone hd hp hq
    (.of_text hreach.chars hlt hposition) hpeek hinvalid
  have hreach' := hreach.transition hcurrent (.resumes hresumes)
  have hle' := (Transition.resumes hresumes).advance_le hcurrent
  rw [htext, List.append_assoc]
  refine ⟨invalid', faults₀ ++ faults', _, hreach', ?_, hinvalid', fun hfalse => ?_⟩
  · rw [Cursor.position_advance hle', List.length_append, hposition, hlength]
  · obtain ⟨hfalse', rfl⟩ := hfaults' hfalse
    rw [hfaults hfalse']
    rfl

/-- Every transition leads to a mode that the token under construction leads to alone. -/
theorem Transition.standalone {s : Step} (h : Transition cursor c mode s)
    (hd : mode.Describes cursor) (hc : cursor.current? = some c) (hmode : mode.Standalone cursor) :
    s.mode.Standalone (cursor.advance s.advance) := by
  cases h with
  | opens h => exact h.standalone hc
  | emits h => exact standalone_of_none (h.span hc).1
  | resumes h => exact h.standalone hd hc hmode
  | closes h => exact standalone_of_none (Mode.pending?_eq_none_of_isBetween h.span.1)
  | handsOver h =>
    intro p hp hfraction hrepetend
    cases h <;> cases hp <;> contradiction

theorem Reaches.standalone (h : Reaches code mode cursor output) : mode.Standalone cursor := by
  induction h with
  | start => exact standalone_of_none rfl
  | step h hc ih => exact (transition_step h.describes hc).standalone h.describes hc ih

/-! ## The end of a token -/

/-- A token comes out the same on a line of its own. -/
def Isolated (code : List Char) (t : Token) : Prop :=
  t.category ≠ .fraction → t.category ≠ .repetend →
    ∃ invalid faults, scan (t.raw code) = ⟨[t.alone invalid], faults⟩ ∧
      (invalid = true → t.invalid = true) ∧ (t.invalid = false → faults = [])

/-- What the scan of a line puts out, from a state on the way. -/
theorem Reaches.scan_eq (h : Reaches code mode cursor output) :
    scan code = output ++ rest mode cursor := by
  induction h with
  | start => rfl
  | step h hc ih => rw [ih, rest_of_some hc, Output.append_assoc]

theorem Reaches.scan_eq_of_end (h : Reaches code mode cursor output)
    (hend : cursor.position = cursor.size) : scan code = output ++ finish mode cursor := by
  rw [h.scan_eq, rest_of_none (Cursor.current?_eq_none hend)]

/-- Where nothing is under construction, the end of the line puts nothing out. -/
theorem finish_of_pending?_eq_none (h : mode.pending? = none) : finish mode cursor = .empty := by
  cases mode <;> first | rfl | exact nomatch h

/-- A token that ends before the cursor is put out at the end of its own line. -/
theorem Mode.Standalone.isolated (hmode : mode.Standalone cursor)
    (hcode : cursor.chars = code.toArray) (hd : mode.Describes cursor)
    (hp : mode.pending? = some p) (hfraction : p.category ≠ .fraction)
    (hrepetend : p.category ≠ .repetend) (hstart : t.start = p.start)
    (hstop : t.stop = cursor.position) (hflag : t.invalid = p.invalid)
    (hfinish : ∀ inner invalid, Echoes p.start inner cursor → inner.position = inner.size →
      (invalid = true → p.invalid = true) →
      finish (mode.alone invalid) inner = ⟨[t.alone invalid], []⟩) : Isolated code t := by
  intro _ _
  have hraw : t.raw code = p.text cursor := by
    rw [raw_eq_slice hcode, hstart, hstop]
    rfl
  obtain ⟨invalid, faults, inner, hreach, hposition, hinvalid, hfaults⟩ :=
    hmode p hp hfraction hrepetend []
  have hechoes := Echoes.of_text hreach.chars (hd.start_lt hp) hposition
  rw [List.append_nil] at hreach
  have hend : inner.position = inner.size := by rw [hposition, hreach.size]
  rw [hraw, hflag]
  refine ⟨invalid, faults, ?_, hinvalid, fun hvalid => hfaults ?_⟩
  · rw [hreach.scan_eq_of_end hend, hfinish inner invalid hechoes hend hinvalid]
    exact congrArg (Output.mk _) (List.append_nil faults)
  · exact eq_false_of_ne_true fun htrue =>
      absurd (hvalid.symm.trans (hinvalid htrue)) Bool.false_ne_true

/-- A token that ends with the character at the cursor ends with it on its own line. -/
theorem Mode.Standalone.isolated_delimited (hmode : mode.Standalone cursor)
    (hcode : cursor.chars = code.toArray) (hd : mode.Describes cursor)
    (hc : cursor.current? = some c) (hp : mode.pending? = some p)
    (hfraction : p.category ≠ .fraction) (hrepetend : p.category ≠ .repetend)
    (hstart : t.start = p.start) (hstop : t.stop = cursor.position + 1)
    (hflag : t.invalid = p.invalid)
    (hcloses : ∀ inner invalid, Echoes p.start inner cursor → inner.current? = some c →
      inner.position + 1 = inner.size → (invalid = true → p.invalid = true) →
      ∃ next, Closes inner c (mode.alone invalid) [] (t.alone invalid) next 1) :
    Isolated code t := by
  intro _ _
  have hlt := hd.start_lt hp
  have hraw : t.raw code = p.text cursor ++ [c] := by
    rw [raw_eq_slice hcode, hstart, hstop]
    exact Cursor.slice_succ (Nat.le_of_lt hlt) hc
  obtain ⟨invalid, faults, inner, hreach, hposition, hinvalid, hfaults⟩ :=
    hmode p hp hfraction hrepetend [c]
  have hsize : inner.position + 1 = inner.size := by
    rw [hposition, hreach.size, List.length_append]
    rfl
  have hcurrent : inner.current? = some c := by
    rw [Cursor.current?, Cursor.charAt?_of_chars hreach.chars, hposition]
    exact List.getElem?_concat_length
  obtain ⟨next, hcloses'⟩ :=
    hcloses inner invalid (.of_text hreach.chars hlt hposition) hcurrent hsize hinvalid
  have hreach' := hreach.transition hcurrent (.closes hcloses')
  have hend : (inner.advance 1).position = (inner.advance 1).size := by
    rw [Cursor.position_advance_one hcurrent, hsize, Cursor.size_advance]
  have hnone := Mode.pending?_eq_none_of_isBetween hcloses'.span.1
  rw [hraw, hflag]
  refine ⟨invalid, faults, ?_, hinvalid, fun hvalid => hfaults ?_⟩
  · rw [hreach'.scan_eq_of_end hend, finish_of_pending?_eq_none hnone, Output.append_empty]
    exact congrArg (Output.mk _) (List.append_nil faults)
  · exact eq_false_of_ne_true fun htrue =>
      absurd (hvalid.symm.trans (hinvalid htrue)) Bool.false_ne_true

end

/-! ## Tokens of the two lines -/

section
variable {code : List Char} {cursor inner : Cursor} {c : Char} {mode next : Mode}
  {faults : List Fault} {t : Token} {p : Pending} {n : Nat}

/-- The same text gives the same token, at another place. -/
theorem Pending.token_alone {lexemeStop stop : Nat} (invalid : Bool)
    (hslice : inner.slice p.offset lexemeStop =
      cursor.slice (p.start + p.offset) (lexemeStop + p.start)) :
    (p.alone invalid).token inner lexemeStop stop =
      (p.token cursor (lexemeStop + p.start) (stop + p.start)).alone invalid := by
  have hslice' : inner.slice (0 + p.offset) lexemeStop =
      cursor.slice (p.start + p.offset) (lexemeStop + p.start) := by rwa [Nat.zero_add]
  have hstop : stop + p.start - p.start = stop := Nat.add_sub_cancel _ _
  unfold Pending.token Pending.alone
  simp only [hslice']
  split <;> rw [Token.tag_alone, hstop]

/-- The token up to the cursor. -/
theorem Echoes.token (h : Echoes p.start inner cursor) (invalid : Bool) :
    (p.alone invalid).token inner inner.position inner.position =
      (p.token cursor cursor.position cursor.position).alone invalid := by
  have hslice := h.slice p.offset
  rw [← h.position_eq, Nat.add_comm p.offset] at hslice
  rw [Pending.token_alone invalid hslice, h.position_eq]

/-- The token with a delimiter at the cursor that is not part of its lexeme. -/
theorem Echoes.token_delimited (h : Echoes p.start inner cursor) (invalid : Bool) :
    (p.alone invalid).token inner inner.position (inner.position + 1) =
      (p.token cursor cursor.position (cursor.position + 1)).alone invalid := by
  have hslice := h.slice p.offset
  rw [← h.position_eq, Nat.add_comm p.offset] at hslice
  rw [Pending.token_alone invalid hslice, Nat.add_right_comm, h.position_eq]

/-- A token that is put out as it is at the end of its own line. -/
theorem Mode.Standalone.isolated_token (hmode : mode.Standalone cursor)
    (hcode : cursor.chars = code.toArray) (hd : mode.Describes cursor)
    (hp : mode.pending? = some p) (hfraction : p.category ≠ .fraction)
    (hrepetend : p.category ≠ .repetend)
    (hfinish : ∀ inner invalid, finish (mode.alone invalid) inner =
      (p.alone invalid).close inner inner.size) :
    Isolated code (p.token cursor cursor.position cursor.position) := by
  refine hmode.isolated hcode hd hp hfraction hrepetend (by simp) (by simp) (by simp) ?_
  intro inner invalid hechoes hend _
  rw [hfinish, Pending.close, ← hend, hechoes.token]
  rfl

theorem isolated_blank (hmode : (Mode.whitespace p).Standalone cursor)
    (hcode : cursor.chars = code.toArray) (hd : (Mode.whitespace p).Describes cursor) :
    Isolated code (p.token cursor cursor.position cursor.position) := by
  have hcat := BlankText.category hd
  exact hmode.isolated_token hcode hd rfl (by rw [hcat]; decide) (by rw [hcat]; decide)
    fun _ _ => rfl

/-- A symbol held back is valid. -/
theorem invalid_eq_false_of_held {invalid : Bool} (hd : (Mode.symbol p).Describes cursor)
    (h : invalid = true → p.invalid = true) : invalid = false := by
  have hvalid : p.invalid = false := HeldText.invalid_eq_false hd
  exact eq_false_of_ne_true fun htrue => absurd (hvalid.symm.trans (h htrue)) Bool.false_ne_true

theorem isolated_held {first : Char} {s : Symbol} (hmode : (Mode.symbol p).Standalone cursor)
    (hcode : cursor.chars = code.toArray) (hd : (Mode.symbol p).Describes cursor)
    (hfirst : cursor.charAt? p.start = some first) (hs : Symbol.ofChar? first = some s) :
    Isolated code (.ofSymbol s p.start cursor.position) := by
  have hheld : p.category = .punctuation ∧ p.invalid = false := by
    have hopened := HeldText.opened hd
    exact ⟨congrArg Pending.category hopened, congrArg Pending.invalid hopened⟩
  refine hmode.isolated hcode hd rfl (by rw [hheld.1]; decide) (by rw [hheld.1]; decide) rfl rfl
    hheld.2.symm ?_
  intro inner invalid hechoes hend hinvalid
  have htext : (p.alone invalid).text inner = [first] := by
    have hslice := hechoes.slice 0
    rw [Nat.zero_add] at hslice
    exact hslice.trans (hd.text_symbol hfirst)
  have hwidth : cursor.position - p.start = inner.position := by
    have hposition := hechoes.position_eq
    omega
  obtain rfl := invalid_eq_false_of_held hd hinvalid
  have hclose := congrArg Prod.fst (closeSymbol_eq htext hs)
  rw [hend] at hclose
  show (closeSymbol inner (p.alone false) inner.size).1 = _
  rw [hclose, Token.alone, ← hend]
  show _ = (⟨[⟨_, _, 0, cursor.position - p.start, false⟩], []⟩ : Output)
  rw [hwidth]
  rfl

theorem isolated_word (hmode : (Mode.word p).Standalone cursor)
    (hcode : cursor.chars = code.toArray) (hd : (Mode.word p).Describes cursor) :
    Isolated code (p.token cursor cursor.position cursor.position) := by
  obtain ⟨hfraction, hrepetend⟩ := ne_of_isName (WordText.category hd)
  exact hmode.isolated_token hcode hd rfl hfraction hrepetend fun _ _ => rfl

/-- An integer does not depend on what ends it. -/
theorem isolated_number {radix : Radix} (hmode : (Mode.number p radix).Standalone cursor)
    (hcode : cursor.chars = code.toArray) (hd : (Mode.number p radix).Describes cursor)
    (hcat : t.category = p.category)
    (ht : p.category ≠ .repetend → t = p.token cursor cursor.position cursor.position) :
    Isolated code t := by
  intro hfraction hrepetend
  have hp : p.category ≠ .fraction ∧ p.category ≠ .repetend := by
    rw [← hcat]
    exact ⟨hfraction, hrepetend⟩
  obtain rfl := ht hp.2
  exact hmode.isolated_token hcode hd rfl hp.1 hp.2 (fun _ _ => if_neg hp.2) hfraction hrepetend

theorem isolated_closedNumber {radix : Radix} (hmode : (Mode.number p radix).Standalone cursor)
    (hcode : cursor.chars = code.toArray) (hd : (Mode.number p radix).Describes cursor) :
    Isolated code (closedNumber cursor p cursor.position) := by
  refine isolated_number hmode hcode hd (category_closedNumber cursor hd _) fun hrepetend => ?_
  rw [closedNumber, if_neg hrepetend]

theorem ne_of_isQuoting {category : Category} (h : category.isQuoting = true) :
    category ≠ .fraction ∧ category ≠ .repetend := by
  cases category <;> first | exact absurd h (by decide) | exact ⟨by decide, by decide⟩

/-- A literal that ends with the quote at the cursor. -/
theorem isolated_quoted (hmode : mode.Standalone cursor) (hcode : cursor.chars = code.toArray)
    (hd : mode.Describes cursor) (hc : cursor.current? = some c) (hp : mode.pending? = some p)
    (hquoting : p.category.isQuoting = true)
    (hcloses : ∀ inner invalid, Echoes p.start inner cursor → inner.position + 1 = inner.size →
      Closes inner c (mode.alone invalid) []
        ((p.alone invalid).token inner inner.position (inner.position + 1)) .undemarcated 1) :
    Isolated code (p.token cursor cursor.position (cursor.position + 1)) := by
  obtain ⟨hfraction, hrepetend⟩ := ne_of_isQuoting hquoting
  refine hmode.isolated_delimited hcode hd hc hp hfraction hrepetend (by simp) (by simp) (by simp)
    fun inner invalid hechoes _ hsize _ => ?_
  rw [← hechoes.token_delimited]
  exact ⟨.undemarcated, hcloses inner invalid hechoes hsize⟩

theorem Closes.isolated (h : Closes cursor c mode faults t next n)
    (hmode : mode.Standalone cursor) (hcode : cursor.chars = code.toArray)
    (hd : mode.Describes cursor) (hc : cursor.current? = some c) : Isolated code t := by
  cases h with
  | whitespace => exact isolated_blank hmode hcode hd
  | @pair p first s hfirst hclass hs =>
    have hlt : p.start < cursor.position := hd.start_lt rfl
    have hheld : p.category = .punctuation ∧ p.invalid = false := by
      have hopened := HeldText.opened hd
      exact ⟨congrArg Pending.category hopened, congrArg Pending.invalid hopened⟩
    refine hmode.isolated_delimited hcode hd hc rfl (by rw [hheld.1]; decide)
      (by rw [hheld.1]; decide) rfl rfl hheld.2.symm fun inner invalid hechoes _ _ hinvalid => ?_
    obtain rfl := invalid_eq_false_of_held hd hinvalid
    have hwidth : cursor.position + 1 - p.start = inner.position + 1 := by
      have hposition := hechoes.position_eq
      omega
    have htoken : (Token.ofSymbol s p.start (cursor.position + 1)).alone false =
        .ofSymbol s 0 (inner.position + 1) := by
      show (⟨_, _, 0, cursor.position + 1 - p.start, false⟩ : Token) = _
      rw [hwidth]
      rfl
    rw [htoken]
    exact ⟨.after s, .pair ((hechoes.charAt?_zero hlt).trans hfirst) hclass hs⟩
  | symbol hfirst hs => exact isolated_held hmode hcode hd hfirst hs
  | @predicate p hquery =>
    obtain ⟨hfraction, hrepetend⟩ := ne_of_isName (WordText.category hd)
    refine hmode.isolated_delimited hcode hd hc rfl hfraction hrepetend
      (Pending.start_token _ _ _ _) (Pending.stop_token _ _ _ _) (Pending.invalid_token _ _ _ _)
      fun inner invalid hechoes hcurrent _ _ => ?_
    -- the question mark is part of the lexeme
    have htoken := Echoes.token (p := p.recast .predicate) (hechoes.advance_one hcurrent hc) invalid
    rw [Cursor.position_advance_one hcurrent, Cursor.position_advance_one hc] at htoken
    exact ⟨.undemarcated, htoken ▸ .predicate hquery⟩
  | word => exact isolated_word hmode hcode hd
  | @range p radix hpoint hcat hwidth =>
    intro _ _
    have hlt : p.start < cursor.position := hd.start_lt rfl
    have hraw : (Token.ofSymbol .ellipsis p.start (cursor.position + 1)).raw code = ['.', '.'] := by
      have hsucc := Cursor.slice_succ (Nat.le_of_lt hlt) hc
      rw [raw_eq_slice hcode]
      refine hsucc.trans ?_
      rw [hpoint]
      exact congrArg (· ++ ['.']) (NumberText.eq_point hd hcat hwidth)
    have hscan : scan ['.', '.'] = ⟨[.ofSymbol .ellipsis 0 2], []⟩ := by cbv
    have hstop : cursor.position + 1 - p.start = 2 := by
      unfold Pending.width at hwidth
      omega
    refine ⟨false, [], ?_, (absurd · Bool.false_ne_true), fun _ => rfl⟩
    rw [hraw, hscan]
    show _ = (⟨[⟨_, _, 0, cursor.position + 1 - p.start, false⟩], []⟩ : Output)
    rw [hstop]
    rfl
  | @repetend p radix _ hcat =>
    intro _ hrepetend
    rw [(Pending.token_of_isLiteral cursor (.inl (NumberText.isNumber hd)) _ _).1] at hrepetend
    exact absurd hcat hrepetend
  | numberGap | number => exact isolated_closedNumber hmode hcode hd
  | @doubleQuoted p hquote hunescaped =>
    have hlt : p.start < cursor.position := hd.start_lt rfl
    refine isolated_quoted hmode hcode hd hc rfl (DoubleText.isQuoting hd)
      fun inner invalid hechoes _ => .doubleQuoted hquote ?_
    rw [hechoes.previous? hlt]
    exact hunescaped
  | @singleQuoted p hquote hsingle =>
    refine isolated_quoted hmode hcode hd hc rfl (SingleText.isQuoting hd)
      fun inner invalid hechoes hsize => .singleQuoted hquote ?_
    have hnone : inner.peek? 1 = none := by
      rw [Cursor.peek?, hsize]
      exact Array.getElem?_eq_none (Nat.le_refl _)
    rw [hnone]
    exact (Option.some_ne_none _).symm

theorem HandsOver.isolated (h : HandsOver cursor c mode faults t next)
    (hmode : mode.Standalone cursor) (hcode : cursor.chars = code.toArray)
    (hd : mode.Describes cursor) : Isolated code t := by
  cases h with
  | fraction | repetend | pointless =>
    have hcat := (Pending.token_of_isLiteral cursor (.inl (NumberText.isNumber hd))
      cursor.position cursor.position).1
    exact isolated_number hmode hcode hd hcat fun _ => rfl
  | secondPoint => exact isolated_closedNumber hmode hcode hd

theorem Finishes.isolated (h : Finishes cursor mode faults t) (hmode : mode.Standalone cursor)
    (hcode : cursor.chars = code.toArray) (hd : mode.Describes cursor)
    (hend : cursor.position = cursor.size) : Isolated code t := by
  cases h <;> rw [← hend]
  case whitespace => exact isolated_blank hmode hcode hd
  case symbol hfirst hs => exact isolated_held hmode hcode hd hfirst hs
  case word => exact isolated_word hmode hcode hd
  case number => exact isolated_closedNumber hmode hcode hd
  case doubleQuoted =>
    obtain ⟨hfraction, hrepetend⟩ := ne_of_isQuoting (DoubleText.isQuoting hd)
    exact hmode.isolated_token hcode hd rfl hfraction hrepetend fun _ _ => rfl
  case singleQuoted =>
    obtain ⟨hfraction, hrepetend⟩ := ne_of_isQuoting (SingleText.isQuoting hd)
    exact hmode.isolated_token hcode hd rfl hfraction hrepetend fun _ _ => rfl

/-- A token that is emitted at once is emitted at once on its own line. -/
theorem Emits.alone (h : Emits cursor c faults t next n) (hcode : cursor.chars = code.toArray)
    (hc : cursor.current? = some c) :
    ∃ faults, Emits (Cursor.ofList (t.raw code)) c faults (t.alone t.invalid) next n ∧
      (t.invalid = false → faults = []) := by
  have hlt := Cursor.position_lt_of_current? hc
  have hone : cursor.position + 1 - cursor.position = 1 := by omega
  cases h with
  | @symbol s h hs hunambiguous =>
    have htoken : (Token.ofSymbol s cursor.position (cursor.position + 1)).alone false =
        .ofSymbol s 0 1 := by
      show (⟨_, _, 0, cursor.position + 1 - cursor.position, false⟩ : Token) = _
      rw [hone]
      rfl
    refine ⟨[], ?_, fun _ => rfl⟩
    show Emits _ c [] ((Token.ofSymbol s cursor.position (cursor.position + 1)).alone false) _ 1
    rw [htoken]
    exact .symbol h hs hunambiguous
  | illegal h =>
    refine ⟨[⟨.illegalCharacter, .span 0 1⟩], ?_, fun hvalid => ?_⟩
    · rw [invalid_tag, Token.tag_alone, hone]
      exact .illegal h
    · rw [invalid_tag] at hvalid
      exact nomatch hvalid
  | documentation h =>
    refine ⟨[], ?_, fun _ => rfl⟩
    -- the own line ends with the documentation, and so does the whole one
    generalize hraw : Token.raw _ code = raw
    rw [raw_eq_slice hcode, start_tag, stop_tag] at hraw
    have hsize : (Cursor.ofList raw).size = cursor.size - cursor.position := by
      rw [Cursor.size_ofList, ← hraw, Cursor.length_slice (Nat.le_refl _)]
    have hchars : (Cursor.ofList raw).chars = raw.toArray := rfl
    have hslice : (Cursor.ofList raw).slice 0 (Cursor.ofList raw).size = raw := by
      rw [Cursor.slice_of_chars hchars, List.drop_zero, Cursor.size_ofList, List.take_length]
    rw [invalid_tag, Token.tag_alone, hraw, ← hsize]
    nth_rewrite 2 [← hslice]
    exact .documentation h

theorem Emits.isolated (h : Emits cursor c faults t next n) (hcode : cursor.chars = code.toArray)
    (hc : cursor.current? = some c) : Isolated code t := by
  intro _ _
  obtain ⟨hnone, hstart, hstop, hpos, hle⟩ := h.span hc
  obtain ⟨faults', hemits, hfaults⟩ := h.alone hcode hc
  have hraw : t.raw code = cursor.slice cursor.position (cursor.position + n) := by
    rw [raw_eq_slice hcode, hstart, hstop]
  have hlength : (t.raw code).length = n := by
    rw [hraw, Cursor.length_slice hle]
    omega
  have hcurrent : (Cursor.ofList (t.raw code)).current? = some c := by
    refine (Cursor.charAt?_ofList _ 0).trans ?_
    rw [hraw, Cursor.getElem?_slice (by omega)]
    exact hc
  have hempty : Reaches (t.raw code) .demarcated (Cursor.ofList (t.raw code)) .empty := .start
  have hreach := hempty.transition hcurrent (@Transition.emits _ _ true _ _ _ _ hemits)
  refine ⟨t.invalid, faults', ?_, id, hfaults⟩
  rw [hreach.scan_eq_of_end ?_, finish_of_pending?_eq_none hnone, Output.append_empty]
  · rfl
  · have hsize : (Cursor.ofList (t.raw code)).size = n := by rw [Cursor.size_ofList, hlength]
    have hend : ((Cursor.ofList (t.raw code)).advance n).position = 0 + n :=
      Cursor.position_advance (by rw [hsize]; exact Nat.le_of_eq (Nat.zero_add n))
    rw [Cursor.size_advance, hsize]
    exact hend.trans (Nat.zero_add n)

/-- The tokens of a line come out the same on lines of their own. -/
theorem scan_isolated (code : List Char) : ∀ t ∈ (scan code).tokens, Isolated code t := by
  apply scan_induction (P := fun output => ∀ t ∈ output.tokens, Isolated code t)
  case empty => exact fun _ ht => absurd ht List.not_mem_nil
  case append => exact fun ha hb => List.forall_mem_append.2 ⟨ha, hb⟩
  case step =>
    intro mode cursor output c s h hc htransition
    have hd := h.describes
    cases htransition with
    | opens | resumes => exact fun _ ht => absurd ht List.not_mem_nil
    | emits hemits => exact List.forall_mem_singleton.2 (hemits.isolated h.chars hc)
    | closes hcloses =>
      exact List.forall_mem_singleton.2 (hcloses.isolated h.standalone h.chars hd hc)
    | handsOver hhands =>
      exact List.forall_mem_singleton.2 (hhands.isolated h.standalone h.chars hd)
  case finish =>
    intro mode cursor output faults t h hend hfin
    exact List.forall_mem_singleton.2 (hfin.isolated h.standalone h.chars h.describes hend)

end

end Scan

/-- Every token of a line but a fraction or a repetend is the only token on a line of its own, with
the same category and the same lexeme. It is faulty there only if it is faulty in the line, and
if it is not, nothing is reported there. -/
theorem tokenize_alone (line own : Line) (t : Token) (ht : t ∈ line.tokenize.1)
    (hfraction : t.category ≠ .fraction) (hrepetend : t.category ≠ .repetend)
    (hown : own.code.toList = t.raw line.code.toList) :
    ∃ invalid, own.tokenize.1 = [⟨t.category, t.lexeme, 0, t.stop - t.start, invalid⟩] ∧
      (invalid = true → t.invalid = true) ∧ (t.invalid = false → own.tokenize.2 = []) := by
  obtain ⟨invalid, faults, hscan, hinvalid, hfaults⟩ :=
    Scan.scan_isolated line.code.toList t ht hfraction hrepetend
  rw [← hown] at hscan
  refine ⟨invalid, ?_, hinvalid, fun hvalid => ?_⟩
  · exact congrArg Scan.Output.tokens hscan
  · show (Scan.scan own.code.toList).faults.map _ = []
    rw [hscan, hfaults hvalid]
    rfl

/-- The two points of a range are read inside a number in the line, and as a symbol on their own. -/
theorem tokenize_alone_range :
    (⟨3, 1, "1..2", none⟩ : Line).tokenize.1 =
        [⟨.integer, .text "1", 0, 1, false⟩, ⟨.punctuation, .symbol .ellipsis, 1, 3, false⟩,
          ⟨.integer, .text "2", 3, 4, false⟩] ∧
      ∃ invalid, (⟨1, 0, "..", none⟩ : Line).tokenize.1 =
          [⟨.punctuation, .symbol .ellipsis, 0, 2, invalid⟩] ∧
        (invalid = true → false = true) ∧
        (false = false → (⟨1, 0, "..", none⟩ : Line).tokenize.2 = []) := by
  have htokens : (⟨3, 1, "1..2", none⟩ : Line).tokenize.1 =
      [⟨.integer, .text "1", 0, 1, false⟩, ⟨.punctuation, .symbol .ellipsis, 1, 3, false⟩,
        ⟨.integer, .text "2", 3, 4, false⟩] := by cbv
  refine ⟨htokens, tokenize_alone ⟨3, 1, "1..2", none⟩ ⟨1, 0, "..", none⟩
    ⟨.punctuation, .symbol .ellipsis, 1, 3, false⟩ ?_ (by decide) (by decide) (by decide)⟩
  rw [htokens]
  exact List.mem_cons_of_mem _ List.mem_cons_self

end LineLexer
