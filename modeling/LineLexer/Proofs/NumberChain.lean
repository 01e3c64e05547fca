import LineLexer.Proofs.Kind
import LineLexer.Proofs.Separation

/-!
# Chains of number parts

A fraction and a repetend never stand alone: the part of the number in front of them is put out by
the same transition that opens them, and what it is decides whether they are marked. So each of them
continues the token in front of it (`Continues`), in a line of any form, with points and parentheses
in any order.

* `Continues`, `Linked`: what stands in front of a part of a number;
* `Pending.Becomes`: what the token that is put out keeps of the part under construction;
* `Transition.chained`, `Reaches.chained`, `scan_linked`: one transition, a whole run and a line.
-/

namespace LineLexer.Scan

/-! ## What stands in front of a part of a number -/

/-- What stands in front of a token of a category, with or without a mark: in front of a fraction
a part of the number, in front of a repetend an integer or a fraction, and the integer or the
fraction respectively if there is no mark. -/
def Continues (code : List Char) (before? : Option Token) (category : Category)
    (invalid : Bool) : Prop :=
  match category with
  | .fraction => ∃ p ∈ before?, p.isBareNumber code = true ∧
      (invalid = false → p.category.isInteger = true)
  | .repetend => ∃ p ∈ before?, p.isBareNumber code = true ∧
      (p.category = .fraction ∨ p.category.isInteger = true) ∧
      (invalid = false → p.category = .fraction)
  | _ => True

/-- Every token continues what stands in front of it. -/
def Linked (code : List Char) (tokens : List Token) : Prop :=
  ∀ t ∈ tokens, ∃ before?, Continues code before? t.category t.invalid ∧
    ∀ p ∈ before?, [p, t] <:+: tokens

/-- What is known in a reachable state about the parts of numbers: the tokens are linked, and the
part under construction continues the last of them. -/
structure Chained (code : List Char) (mode : Mode) (tokens : List Token) : Prop where
  linked : Linked code tokens
  pending : ∀ p radix, mode = .number p radix →
    Continues code tokens.getLast? p.category p.invalid

section
variable {code : List Char} {cursor : Cursor} {c : Char} {mode next : Mode} {faults : List Fault}
  {tokens : List Token} {t : Token} {n : Nat} {before? : Option Token} {category : Category}
  {first second : Bool} {p : Pending} {radix : Radix} {output : Output}

/-- A mark asks for less. -/
theorem Continues.mono (h : Continues code before? category first)
    (hmark : second = false → first = false) : Continues code before? category second := by
  unfold Continues at h ⊢
  split
  · obtain ⟨p, hp, hbare, hinteger⟩ := h
    exact ⟨p, hp, hbare, fun hvalid => hinteger (hmark hvalid)⟩
  · obtain ⟨p, hp, hbare, hpart, hfraction⟩ := h
    exact ⟨p, hp, hbare, hpart, fun hvalid => hfraction (hmark hvalid)⟩
  · trivial

/-- What is no part of a number does not need anything in front of it. -/
theorem continues_of_kind (h : category.kind ≠ .number) :
    Continues code before? category first := by
  unfold Continues
  split
  · exact absurd rfl h
  · exact absurd rfl h
  · trivial

/-- No part of a number is put out at once. -/
theorem Emits.kind_ne_number (h : Emits cursor c faults t next n) : t.category.kind ≠ .number := by
  rcases h.kind_eq with hkind | hkind <;> rw [hkind] <;> decide

theorem Linked.concat (h : Linked code tokens)
    (ht : Continues code tokens.getLast? t.category t.invalid) : Linked code (tokens ++ [t]) := by
  intro u hu
  rcases List.mem_append.1 hu with hu | hu
  · obtain ⟨before?, hcontinues, hrow⟩ := h u hu
    exact ⟨before?, hcontinues, fun p hp => (hrow p hp).trans (List.prefix_append _ _).isInfix⟩
  · obtain rfl := List.mem_singleton.1 hu
    refine ⟨tokens.getLast?, ht, fun p hp => ?_⟩
    obtain ⟨front, rfl⟩ := List.getLast?_eq_some_iff.1 hp
    exact ⟨front, [], by simp⟩

/-! ## What a part under construction becomes -/

/-- The token that a part under construction becomes: of its category, from its start on, and
without a mark only if the part has none. -/
structure Pending.Becomes (p : Pending) (t : Token) : Prop where
  category : t.category = p.category
  start : t.start = p.start
  mark : t.invalid = false → p.invalid = false

theorem NumberText.becomes_token {text : List Char} (h : NumberText p radix text)
    (lexemeStop stop : Nat) : p.Becomes (p.token cursor lexemeStop stop) := by
  refine ⟨(Pending.token_of_isLiteral cursor (.inl h.isNumber) _ _).1, Pending.start_token _ _ _ _,
    fun hvalid => ?_⟩
  rwa [Pending.invalid_token] at hvalid

theorem NumberText.becomes_closedNumber {text : List Char} (h : NumberText p radix text)
    (stop : Nat) : p.Becomes (closedNumber cursor p stop) := by
  refine ⟨category_closedNumber cursor h stop, start_closedNumber _ _ _, fun hvalid => ?_⟩
  unfold closedNumber at hvalid
  rw [Pending.invalid_token] at hvalid
  split at hvalid
  · exact nomatch hvalid
  · exact hvalid

/-- A part of a number that is closed has been under construction. -/
theorem Closes.exists_becomes (h : Closes cursor c mode faults t next n)
    (hd : mode.Describes cursor) (hkind : t.category.kind = .number) :
    ∃ p radix, mode = .number p radix ∧ p.Becomes t := by
  rcases h.kind_eq hd with hmode | ⟨-, start, rfl⟩
  · rw [hkind] at hmode
    cases h with
    | repetend => exact ⟨_, _, rfl, NumberText.becomes_token hd _ _⟩
    | numberGap | number => exact ⟨_, _, rfl, NumberText.becomes_closedNumber hd _⟩
    | range => exact nomatch hkind
    | _ => exact nomatch hmode
  · exact nomatch hkind

theorem HandsOver.exists_becomes (h : HandsOver cursor c mode faults t next)
    (hd : mode.Describes cursor) : ∃ p radix, mode = .number p radix ∧ p.Becomes t := by
  cases h with
  | fraction | repetend | pointless => exact ⟨_, _, rfl, NumberText.becomes_token hd _ _⟩
  | secondPoint => exact ⟨_, _, rfl, NumberText.becomes_closedNumber hd _⟩

theorem Finishes.exists_becomes (h : Finishes cursor mode faults t) (hd : mode.Describes cursor)
    (hend : cursor.position = cursor.size) (hkind : t.category.kind = .number) :
    ∃ p radix, mode = .number p radix ∧ p.Becomes t := by
  have hmode := h.kind_eq hd hend
  rw [hkind] at hmode
  cases h with
  | number => exact ⟨_, _, rfl, NumberText.becomes_closedNumber hd _⟩
  | _ => exact nomatch hmode

/-- A part of a number that is handed over has no closing parenthesis. -/
theorem HandsOver.isBareNumber (h : HandsOver cursor c mode faults t next)
    (hcode : cursor.chars = code.toArray) (hd : mode.Describes cursor) :
    t.isBareNumber code = true := by
  obtain ⟨p, radix, rfl, hbecomes⟩ := h.exists_becomes hd
  obtain ⟨p', q, hp, -, -, hstop, -⟩ := h.span
  exact NumberText.isBareNumber hcode hd hbecomes.category hbecomes.start hstop

/-! ## Links -/

/-- A token that is closed continues what the part under construction does. -/
theorem Closes.continues (h : Closes cursor c mode faults t next n) (hd : mode.Describes cursor)
    (hchained : Chained code mode tokens) :
    Continues code tokens.getLast? t.category t.invalid := by
  by_cases hkind : t.category.kind = .number
  · obtain ⟨p, radix, hmode, hbecomes⟩ := h.exists_becomes hd hkind
    rw [hbecomes.category]
    exact (hchained.pending p radix hmode).mono hbecomes.mark
  · exact continues_of_kind hkind

theorem HandsOver.continues (h : HandsOver cursor c mode faults t next)
    (hd : mode.Describes cursor) (hchained : Chained code mode tokens) :
    Continues code tokens.getLast? t.category t.invalid := by
  obtain ⟨p, radix, hmode, hbecomes⟩ := h.exists_becomes hd
  rw [hbecomes.category]
  exact (hchained.pending p radix hmode).mono hbecomes.mark

theorem Finishes.continues (h : Finishes cursor mode faults t) (hd : mode.Describes cursor)
    (hend : cursor.position = cursor.size) (hchained : Chained code mode tokens) :
    Continues code tokens.getLast? t.category t.invalid := by
  by_cases hkind : t.category.kind = .number
  · obtain ⟨p, radix, hmode, hbecomes⟩ := h.exists_becomes hd hend hkind
    rw [hbecomes.category]
    exact (hchained.pending p radix hmode).mono hbecomes.mark
  · exact continues_of_kind hkind

theorem isInteger_of_ne (hnumber : category.isNumber = true) (hfraction : category ≠ .fraction)
    (hrepetend : category ≠ .repetend) : category.isInteger = true := by
  cases category <;> first | rfl | contradiction

/-- The part that is opened continues the one that is handed over. -/
theorem HandsOver.continues_next (h : HandsOver cursor c mode faults t next)
    (hcode : cursor.chars = code.toArray) (hd : mode.Describes cursor) {q : Pending}
    (hnext : next = .number q radix) : Continues code (some t) q.category q.invalid := by
  have hbare := h.isBareNumber hcode hd
  obtain ⟨p, radix', rfl, hbecomes⟩ := h.exists_becomes hd
  have hcategory := hbecomes.category
  cases h with
  | fraction hpoint hinteger =>
    obtain ⟨rfl, -⟩ := Mode.number.inj hnext
    exact ⟨_, rfl, hbare, fun _ => hcategory ▸ hinteger⟩
  | secondPoint =>
    obtain ⟨rfl, -⟩ := Mode.number.inj hnext
    exact ⟨_, rfl, hbare, fun hvalid => nomatch hvalid⟩
  | repetend hparenthesis hfraction =>
    obtain ⟨rfl, -⟩ := Mode.number.inj hnext
    have hfront := hcategory.trans hfraction
    exact ⟨_, rfl, hbare, .inl hfront, fun _ => hfront⟩
  | pointless hparenthesis hfraction hrepetend =>
    obtain ⟨rfl, -⟩ := Mode.number.inj hnext
    have hinteger := isInteger_of_ne (NumberText.isNumber hd) hfraction hrepetend
    exact ⟨_, rfl, hbare, .inr (hcategory ▸ hinteger), fun hvalid => nomatch hvalid⟩

/-- Where no token is under construction, nothing has to be continued. -/
theorem Linked.chained (h : Linked code tokens) (hnone : mode.pending? = none) :
    Chained code mode tokens := by
  refine ⟨h, fun p radix hmode => ?_⟩
  rw [hmode] at hnone
  exact nomatch hnone

/-- Every transition keeps the parts of numbers linked. -/
theorem Transition.chained {s : Step} (h : Transition cursor c mode s)
    (hcode : cursor.chars = code.toArray) (hd : mode.Describes cursor)
    (hc : cursor.current? = some c) (hchained : Chained code mode tokens) :
    Chained code s.mode (tokens ++ s.output.tokens) := by
  cases h with
  | opens h =>
    rw [List.append_nil]
    refine ⟨hchained.linked, fun p radix hmode => ?_⟩
    cases h with
    | number =>
      obtain ⟨rfl, -⟩ := Mode.number.inj hmode
      trivial
    | _ => exact nomatch hmode
  | emits h =>
    exact (hchained.linked.concat (continues_of_kind h.kind_ne_number)).chained (h.span hc).1
  | resumes h =>
    rw [List.append_nil]
    refine ⟨hchained.linked, fun p radix hmode => ?_⟩
    cases h with
    | digit =>
      obtain ⟨rfl, -⟩ := Mode.number.inj hmode
      exact hchained.pending _ _ rfl
    | illegalDigit =>
      obtain ⟨rfl, -⟩ := Mode.number.inj hmode
      exact (hchained.pending _ _ rfl).mono fun hvalid => nomatch hvalid
    | binaryMark | hexMark =>
      obtain ⟨rfl, -⟩ := Mode.number.inj hmode
      trivial
    | _ => exact nomatch hmode
  | closes h =>
    obtain ⟨hbetween, -⟩ := h.span
    exact (hchained.linked.concat (h.continues hd hchained)).chained
      (Mode.pending?_eq_none_of_isBetween hbetween)
  | handsOver h =>
    refine ⟨hchained.linked.concat (h.continues hd hchained), fun q radix hmode => ?_⟩
    rw [List.getLast?_concat]
    exact h.continues_next hcode hd hmode

/-- In every reachable state the parts of numbers are linked. -/
theorem Reaches.chained (h : Reaches code mode cursor output) :
    Chained code mode output.tokens := by
  induction h with
  | start => exact ⟨fun _ ht => absurd ht List.not_mem_nil, fun _ _ hmode => nomatch hmode⟩
  | step h hc ih => exact (transition_step h.describes hc).chained h.chars h.describes hc ih

/-- The tokens of a line are linked. -/
theorem scan_linked (code : List Char) : Linked code (scan code).tokens := by
  obtain ⟨mode, cursor, output, hreach, hend, -, hscan⟩ := exists_reaches_scan code
  rw [hscan, Output.tokens_append]
  rcases finishes_finish hreach.describes hend with ⟨-, hempty⟩ | ⟨faults, t, hfin, heq⟩
  · rw [hempty]
    show Linked code (output.tokens ++ [])
    rw [List.append_nil]
    exact hreach.chained.linked
  · rw [heq]
    exact hreach.chained.linked.concat (hfin.continues hreach.describes hend hreach.chained)

/-- Of two tokens in a row, the second starts where the first ends. -/
theorem stop_eq_of_consecutive {a b : Nat} {p t : Token} (h : Tiles a tokens b)
    (hrow : [p, t] <:+: tokens) : p.stop = t.start := by
  simpa using h.isChain.infix hrow

end

end LineLexer.Scan
