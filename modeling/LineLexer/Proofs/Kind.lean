import LineLexer.Proofs.Separation

/-!
# Kinds of tokens

While a token is under construction, its mode says of which kind it will be: blank, a symbol, a
word, a part of a number or a quoted literal. Only what is found out at the end is left open, such
as whether a word is a keyword. So a token that is put out is of the kind of the mode that it ends;
the two points of a range are the exception, as the first of them was taken for that of a fraction.

* `Category.kind`, `Mode.kind?`: the kind of a token, and of the one under construction;
* `Emits.kind_eq`, `Closes.kind_eq`, `HandsOver.kind_eq`, `Finishes.kind_eq`: the tokens of
  transitions.
-/

namespace LineLexer

/-- What a token is, as far as that is known while it is under construction. -/
inductive Kind where
  | blank
  | symbol
  | word
  | number
  | quoted
  | documentation
deriving DecidableEq, Repr

/-- The kind of the tokens of a category. -/
def Category.kind : Category → Kind
  | .whitespace => .blank
  | .punctuation => .symbol
  | .keyword | .uncapitalizedName | .label | .predicate | .capitalizedName => .word
  | .integer | .binaryInteger | .hexadecimalInteger | .fraction | .repetend => .number
  | .string | .rawString | .binary | .hex => .quoted
  | .documentation => .documentation

theorem Category.kind_eq_number_iff {category : Category} :
    category.kind = .number ↔ category.isNumber = true := by
  cases category <;> decide

theorem Category.kind_eq_quoted_iff {category : Category} :
    category.kind = .quoted ↔ category.isQuoting = true := by
  cases category <;> decide

theorem Category.kind_eq_word_iff {category : Category} :
    category.kind = .word ↔ category.isName = true ∨ category = .keyword := by
  cases category <;> decide

namespace Scan

/-- The kind of the token under construction. -/
def Mode.kind? : Mode → Option Kind
  | .whitespace _ => some .blank
  | .symbol _ => some .symbol
  | .word _ => some .word
  | .number _ _ => some .number
  | .doubleQuoted _ | .singleQuoted _ => some .quoted
  | .demarcated | .undemarcated | .documentation => none

/-- Where no token is under construction, there is no kind. -/
theorem Mode.kind?_eq_none {mode : Mode} (h : mode.pending? = none) : mode.kind? = none := by
  cases mode <;> first | rfl | exact nomatch h

theorem Mode.kind?_between (separated : Bool) : (Mode.between separated).kind? = none := by
  cases separated <;> rfl

section
variable {cursor : Cursor} {c : Char} {mode next : Mode} {faults : List Fault} {t : Token} {n : Nat}
  {p : Pending}

/-! ## Tokens that are closed -/

theorem BlankText.kind_token {text : List Char} (h : BlankText p text) (lexemeStop stop : Nat) :
    (p.token cursor lexemeStop stop).category.kind = .blank := by
  rw [Pending.token, if_pos h.category]
  rfl

theorem kind_token_name {stop : Nat} {letter : Char} (hname : p.category.isName = true)
    (hoffset : p.offset = 0) (hmem : letter ∈ cursor.slice p.start stop)
    (hletter : (CharClass.of letter).isLetterClass = true) :
    (p.token cursor stop stop).category.kind = .word := by
  obtain htoken | ⟨k, -, htoken⟩ := Pending.token_of_isName hname hoffset hmem hletter
  · rw [htoken]
    exact Category.kind_eq_word_iff.2 (.inl hname)
  · rw [htoken]
    rfl

/-- The name of a word is its text, perhaps with a question mark behind it. -/
theorem WordText.kind_token {q : Pending} {stop : Nat} (h : WordText p (p.text cursor))
    (hlt : p.start < cursor.position) (hstop : cursor.position ≤ stop) (hstart : q.start = p.start)
    (hname : q.category.isName = true) (hoffset : q.offset = 0) :
    (q.token cursor stop stop).category.kind = .word := by
  obtain ⟨letter, hmem, hletter⟩ := h.exists_letter
  refine kind_token_name hname hoffset ?_ hletter
  rw [hstart, ← Cursor.slice_append (Nat.le_of_lt hlt) hstop]
  exact List.mem_append_left _ hmem

theorem NumberText.kind_token {radix : Radix} {text : List Char} (h : NumberText p radix text)
    (lexemeStop stop : Nat) : (p.token cursor lexemeStop stop).category.kind = .number := by
  rw [(Pending.token_of_isLiteral cursor (.inl h.isNumber) lexemeStop stop).1]
  exact Category.kind_eq_number_iff.2 h.isNumber

theorem NumberText.kind_closedNumber {radix : Radix} {text : List Char}
    (h : NumberText p radix text) (stop : Nat) :
    (closedNumber cursor p stop).category.kind = .number := by
  rw [category_closedNumber cursor h]
  exact Category.kind_eq_number_iff.2 h.isNumber

theorem kind_token_quoting (h : p.category.isQuoting = true) (lexemeStop stop : Nat) :
    (p.token cursor lexemeStop stop).category.kind = .quoted := by
  rw [(Pending.token_of_isLiteral cursor (.inr h) lexemeStop stop).1]
  exact Category.kind_eq_quoted_iff.2 h

/-! ## Transitions -/

/-- What is put out at once is a symbol or documentation. -/
theorem Emits.kind_eq (h : Emits cursor c faults t next n) :
    t.category.kind = .symbol ∨ t.category.kind = .documentation := by
  cases h with
  | symbol => exact .inl rfl
  | illegal h =>
    rw [Token.tag, Token.classify, Reserved.ofSpelling?_of_other h]
    exact .inl rfl
  | documentation => exact .inr rfl

/-- A sign may turn into a word and a word into a literal, but nothing into a number. -/
theorem Resumes.exists_kind (h : Resumes cursor c mode faults next n) {k : Kind}
    (hk : mode.kind? = some k) (hne : k ≠ .number) : ∃ k', next.kind? = some k' ∧ k' ≠ .number := by
  cases h <;> first
    | exact ⟨_, rfl, by decide⟩
    | exact absurd (Option.some.inj hk).symm hne

/-- A token is of the kind of the mode that it ends, unless it is a range. -/
theorem Closes.kind_eq (h : Closes cursor c mode faults t next n) (hd : mode.Describes cursor) :
    mode.kind? = some t.category.kind ∨
      mode.kind? = some .number ∧ ∃ start, t = .ofSymbol .ellipsis start (start + 2) := by
  cases h with
  | whitespace => exact .inl (congrArg some (BlankText.kind_token hd _ _)).symm
  | pair | symbol => exact .inl rfl
  | @predicate p =>
    have hoffset : p.offset = 0 := WordText.offset hd
    refine .inl (congrArg some ?_).symm
    exact WordText.kind_token (q := p.recast .predicate) hd (hd.start_lt rfl) (Nat.le_succ _) rfl
      rfl hoffset
  | word =>
    refine .inl (congrArg some ?_).symm
    exact WordText.kind_token hd (hd.start_lt rfl) (Nat.le_refl _) rfl (WordText.category hd)
      (WordText.offset hd)
  | @range p radix h hfraction hwidth =>
    unfold Pending.width at hwidth
    exact .inr ⟨rfl, p.start, by rw [show cursor.position + 1 = p.start + 2 by omega]⟩
  | repetend => exact .inl (congrArg some (NumberText.kind_token hd _ _)).symm
  | numberGap | number => exact .inl (congrArg some (NumberText.kind_closedNumber hd _)).symm
  | doubleQuoted =>
    exact .inl (congrArg some (kind_token_quoting (DoubleText.isQuoting hd) _ _)).symm
  | singleQuoted =>
    exact .inl (congrArg some (kind_token_quoting (SingleText.isQuoting hd) _ _)).symm

theorem HandsOver.kind_eq (h : HandsOver cursor c mode faults t next) (hd : mode.Describes cursor) :
    mode.kind? = some .number ∧ t.category.kind = .number := by
  cases h with
  | fraction | repetend | pointless => exact ⟨rfl, NumberText.kind_token hd _ _⟩
  | secondPoint => exact ⟨rfl, NumberText.kind_closedNumber hd _⟩

theorem Finishes.kind_eq (h : Finishes cursor mode faults t) (hd : mode.Describes cursor)
    (hend : cursor.position = cursor.size) : mode.kind? = some t.category.kind := by
  cases h <;> refine (congrArg some ?_).symm
  case whitespace => exact BlankText.kind_token hd _ _
  case symbol => rfl
  case word =>
    exact WordText.kind_token hd (hd.start_lt rfl) (Nat.le_of_eq hend) rfl (WordText.category hd)
      (WordText.offset hd)
  case number => exact NumberText.kind_closedNumber hd _
  case doubleQuoted => exact kind_token_quoting (DoubleText.isQuoting hd) _ _
  case singleQuoted => exact kind_token_quoting (SingleText.isQuoting hd) _ _

end

end Scan
end LineLexer
