import LineLexer.Proofs.Tiling

/-!
# Lexemes are faithful to the source

The lexeme of a token is cut out of the text that the token covers, and `Token.Faithful` says
for every category how the two fit together: which characters lead the lexeme in, which
follow it, and what identity a reserved spelling has. `tokenize_faithful` says it of all
tokens of a line.

The text of a token under construction is known from `Mode.Describes`, so a token that is
closed there is faithful by the shape of that text; the lemmas `…Text.faithful` do this for
one kind of text each.
-/

namespace LineLexer

/-! ## What a faithful token is -/

/-- A lexeme between an opening and a closing quote; the quote at its end may be missing where the
line ends. -/
def Token.Quotes (code : List Char) (t : Token) (opening : List Char) (quote : Char) : Prop :=
  ∃ content, t.lexeme = .text (String.ofList content) ∧
    (t.raw code = opening ++ content ++ [quote] ∨
      t.raw code = opening ++ content ∧ t.stop = code.length)

/-- What a token says agrees with the text it covers. -/
def Token.Faithful (code : List Char) (t : Token) : Prop :=
  match t.category with
  | .whitespace =>
    t.lexeme = .none ∧ t.raw code ≠ [] ∧ ∀ c ∈ t.raw code, c = ' ' ∨ c = '\t'
  | .punctuation =>
    (∃ s, t.lexeme = .symbol s ∧ s.chars = t.raw code) ∨
      ∃ c, t.raw code = [c] ∧ CharClass.of c = .other ∧ t.lexeme = .text (String.ofList [c])
  | .keyword => ∃ k, t.lexeme = .keyword k ∧ k.spelling = String.ofList (t.raw code)
  | .uncapitalizedName | .label | .predicate | .capitalizedName =>
    t.lexeme = .text (String.ofList (t.raw code)) ∧
      ∀ reserved : Reserved, reserved.spelling ≠ String.ofList (t.raw code)
  | .integer => t.lexeme = .text (String.ofList (t.raw code))
  | .binaryInteger =>
    ∃ mark content, (mark = 'b' ∨ mark = 'B') ∧ t.raw code = '0' :: mark :: content ∧
      t.lexeme = .text (String.ofList content)
  | .hexadecimalInteger =>
    ∃ mark content, (mark = 'x' ∨ mark = 'X') ∧ t.raw code = '0' :: mark :: content ∧
      t.lexeme = .text (String.ofList content)
  | .fraction =>
    ∃ content, t.raw code = '.' :: content ∧ t.lexeme = .text (String.ofList content)
  | .repetend =>
    ∃ content, (t.raw code = '(' :: content ++ [')'] ∨ t.raw code = '(' :: content) ∧
      ')' ∉ content ∧ t.lexeme = .text (String.ofList content)
  | .string => t.Quotes code ['"'] '"'
  | .rawString =>
    t.Quotes code ['\''] '\'' ∨
      ∃ mark, (CharClass.of mark).isLetterClass = true ∧ t.Quotes code [mark, '\''] '\''
  | .binary => ∃ mark, (mark = 'b' ∨ mark = 'B') ∧ t.Quotes code [mark, '\''] '\''
  | .hex => ∃ mark, (mark = 'x' ∨ mark = 'X') ∧ t.Quotes code [mark, '\''] '\''
  | .documentation =>
    t.stop = code.length ∧ (t.raw code).head? = some '#' ∧
      t.lexeme = .text (String.ofList (Text.trim ((t.raw code).dropWhile (· = '#'))))

/-! ## Reserved spellings -/

/-- No symbol has a letter in it. -/
theorem Reserved.ofSpelling?_of_mem {text : List Char} {letter : Char} (hmem : letter ∈ text)
    (hletter : (CharClass.of letter).isLetterClass = true) :
    ofSpelling? (String.ofList text) =
      (Keyword.ofSpelling? (String.ofList text)).map .keyword := by
  have hsymbol : Symbol.ofSpelling? (String.ofList text) = none := by
    refine Option.eq_none_iff_forall_ne_some.2 fun s hs => ?_
    rw [Symbol.ofSpelling?, String.toList_ofList] at hs
    rw [← Symbol.chars_of_ofChars? hs] at hmem
    rw [CharClass.isLetterClass_of_isSymbolic (CharClass.isSymbolic_of_mem_chars hmem)] at hletter
    exact absurd hletter Bool.false_ne_true
  unfold ofSpelling?
  cases Keyword.ofSpelling? (String.ofList text) with
  | some k => rfl
  | none =>
    rw [hsymbol]
    rfl

/-- A name is retagged exactly if it is reserved, and then it carries the identity it spells. -/
theorem Token.faithful_tag_name {code : List Char} {category : Category} {text : List Char}
    {start stop : Nat} {invalid : Bool} (hname : category.isName = true)
    (hraw : (code.take stop).drop start = text) :
    (Token.tag category (some (String.ofList text)) start stop invalid).Faithful code := by
  have hres : category.isReservable = true := by
    rw [Category.isReservable, hname]
    rfl
  cases hlook : Reserved.ofSpelling? (String.ofList text) with
  | none =>
    simp only [Token.tag, Token.classify, hres, hlook, if_true]
    subst hraw
    have hspell := Reserved.ofSpelling?_eq_none_iff.1 hlook
    cases category <;> first | exact ⟨rfl, hspell⟩ | exact absurd hname (by decide)
  | some r =>
    have hspell := Reserved.spelling_of_ofSpelling? hlook
    simp only [Token.tag, Token.classify, hres, hlook, if_true]
    subst hraw
    cases r with
    | keyword k => exact ⟨k, rfl, hspell⟩
    | symbol s => exact .inl ⟨s, rfl, String.ofList_injective hspell⟩

/-- No keyword is a single character. -/
theorem Keyword.ofSpelling?_singleton (c : Char) :
    Keyword.ofSpelling? (String.singleton c) = none := by
  refine List.find?_eq_none.2 fun k _ hk => ?_
  have hspell : k.spelling = String.singleton c := by simpa using hk
  have hlen : k.spelling.length = 1 := by rw [hspell, String.length_singleton]
  have hne : k.spelling.length ≠ 1 := by cases k <;> decide
  exact hne hlen

/-- A character outside the classes of the language is not reserved. -/
theorem Reserved.ofSpelling?_of_other {c : Char} (h : CharClass.of c = .other) :
    Reserved.ofSpelling? (String.singleton c) = none := by
  have hsymbol : Symbol.ofChar? c = none := CharClass.member_of_eq h
  have hspelling : Symbol.ofSpelling? (String.singleton c) = none := by
    rw [Symbol.ofSpelling?, String.toList_singleton]
    exact hsymbol
  rw [ofSpelling?, Keyword.ofSpelling?_singleton, hspelling]
  rfl

/-! ## What faithful tokens have in common -/

section
variable {code : List Char} {t : Token}

/-- Everything but whitespace has a lexeme. -/
theorem Token.Faithful.lexeme_ne_none (h : t.Faithful code) (hcat : t.category ≠ .whitespace) :
    t.lexeme ≠ .none := by
  unfold Faithful at h
  intro hnone
  rw [hnone] at h
  cases hcat' : t.category <;> simp only [hcat'] at h
  case whitespace => exact hcat hcat'
  case punctuation => obtain ⟨_, hlex, -⟩ | ⟨_, -, -, hlex⟩ := h <;> exact nomatch hlex
  case keyword => obtain ⟨_, hlex, -⟩ := h; exact nomatch hlex
  case uncapitalizedName | label | predicate | capitalizedName => exact nomatch h.1
  case integer => exact nomatch h
  case binaryInteger | hexadecimalInteger => obtain ⟨_, _, -, -, hlex⟩ := h; exact nomatch hlex
  case fraction => obtain ⟨_, -, hlex⟩ := h; exact nomatch hlex
  case repetend => obtain ⟨_, -, -, hlex⟩ := h; exact nomatch hlex
  case string => obtain ⟨_, hlex, -⟩ := h; exact nomatch hnone.symm.trans hlex
  case rawString =>
    obtain ⟨_, hlex, -⟩ | ⟨_, -, _, hlex, -⟩ := h <;> exact nomatch hnone.symm.trans hlex
  case binary | hex => obtain ⟨_, -, _, hlex, -⟩ := h; exact nomatch hnone.symm.trans hlex
  case documentation => exact nomatch h.2.2

/-- Whitespace is what has no lexeme. -/
theorem Token.Faithful.lexeme_eq_none_iff (h : t.Faithful code) :
    t.lexeme = .none ↔ t.category = .whitespace := by
  refine ⟨fun hnone => ?_, fun hcat => ?_⟩
  · exact Decidable.not_not.1 fun hcat => h.lexeme_ne_none hcat hnone
  · rw [Faithful, hcat] at h
    exact h.1

/-- Names, keywords, punctuation and integers spell the text they cover. -/
theorem Token.Faithful.spelling? (h : t.Faithful code)
    (hcat : t.category.isReservable = true ∨ t.category = .integer) :
    t.lexeme.spelling? = some (String.ofList (t.raw code)) := by
  unfold Faithful at h
  cases hcat' : t.category <;> simp only [hcat'] at h hcat
  case punctuation =>
    obtain ⟨s, hlex, hchars⟩ | ⟨c, hraw, -, hlex⟩ := h
    · rw [hlex, ← hchars]
      rfl
    · rw [hlex, hraw]
      rfl
  case keyword =>
    obtain ⟨k, hlex, hspelling⟩ := h
    rw [hlex, ← hspelling]
    rfl
  case uncapitalizedName | label | predicate | capitalizedName =>
    rw [h.1]
    rfl
  case integer =>
    rw [h]
    rfl
  all_goals simp [Category.isReservable, Category.isName] at hcat

/-- A symbol that consists of the text it covers. -/
theorem Token.faithful_ofSymbol {s : Symbol} {start stop : Nat}
    (h : (code.take stop).drop start = s.chars) : (Token.ofSymbol s start stop).Faithful code :=
  .inl ⟨s, rfl, h.symm⟩

end

namespace Scan

/-! ## Closing a text -/

section
variable {code : List Char} {t : Token} {p : Pending} {text : List Char}

/-- A pending literal keeps its category, and its lexeme is its text behind what leads it in. -/
theorem Pending.token_of_isLiteral (cursor : Cursor)
    (h : p.category.isNumber = true ∨ p.category.isQuoting = true) (lexemeStop stop : Nat) :
    (p.token cursor lexemeStop stop).category = p.category ∧
      (p.token cursor lexemeStop stop).lexeme =
        .text (String.ofList ((cursor.slice p.start lexemeStop).drop p.offset)) := by
  have hne : p.category ≠ .whitespace := by
    intro hcat
    rw [hcat] at h
    exact absurd h (by decide)
  have hres : p.category.isReservable = false := by
    cases hcat : p.category <;> rw [hcat] at h <;> first | rfl | exact absurd h (by decide)
  simp [token, hne, Token.tag, Token.classify, hres, Cursor.drop_slice]

theorem NumberText.isNumber {radix : Radix} (h : NumberText p radix text) :
    p.category.isNumber = true := by
  cases h with
  | integer hcat | binary hcat | hexadecimal hcat | fraction hcat | repetend hcat =>
    rw [hcat]
    rfl

theorem SingleText.isQuoting (h : SingleText p text) : p.category.isQuoting = true := by
  cases h with
  | plain hcat =>
    rw [hcat]
    rfl
  | marked hcat =>
    obtain ⟨-, hcat⟩ | ⟨-, hcat⟩ | ⟨-, hcat⟩ := hcat <;> rw [hcat] <;> rfl

theorem DoubleText.isQuoting (h : DoubleText p text) : p.category.isQuoting = true := by
  rw [h.category]
  rfl

theorem BlankText.faithful {cursor : Cursor} {lexemeStop stop : Nat} (h : BlankText p text)
    (hraw : (p.token cursor lexemeStop stop).raw code = text) :
    (p.token cursor lexemeStop stop).Faithful code := by
  rw [Pending.token, if_pos h.category] at hraw ⊢
  subst hraw
  exact ⟨rfl, h.nonempty, h.blank⟩

/-- Only a repetend has something behind its lexeme. -/
theorem NumberText.faithful {radix : Radix} (h : NumberText p radix text)
    (hcat : t.category = p.category) (hlex : t.lexeme = .text (String.ofList (text.drop p.offset)))
    (hraw : t.raw code = text ∨ p.category = .repetend ∧ t.raw code = text ++ [')']) :
    t.Faithful code := by
  cases h with
  | integer hp hoff _ _ =>
    simp only [hp, reduceCtorEq, false_and, or_false] at hcat hraw
    simp only [Token.Faithful, hcat]
    rw [hlex, hraw, hoff, List.drop_zero]
  | binary hp hoff hmark _ =>
    simp only [hp, reduceCtorEq, false_and, or_false] at hcat hraw
    simp only [Token.Faithful, hcat]
    rw [hoff] at hlex
    exact ⟨_, _, CharClass.isBinaryMark_iff.1 hmark, hraw, hlex⟩
  | hexadecimal hp hoff hmark _ =>
    simp only [hp, reduceCtorEq, false_and, or_false] at hcat hraw
    simp only [Token.Faithful, hcat]
    rw [hoff] at hlex
    exact ⟨_, _, CharClass.isHexMark_iff.1 hmark, hraw, hlex⟩
  | fraction hp hoff _ =>
    simp only [hp, reduceCtorEq, false_and, or_false] at hcat hraw
    simp only [Token.Faithful, hcat]
    rw [hoff] at hlex
    exact ⟨_, hraw, hlex⟩
  | repetend hp hoff hdigits =>
    simp only [hp, true_and] at hcat hraw
    simp only [Token.Faithful, hcat]
    rw [hoff] at hlex
    refine ⟨_, hraw.symm, fun hmem => ?_, hlex⟩
    exact absurd (hdigits _ hmem) (by unfold IsAlphanumeric; decide)

theorem DoubleText.faithful (h : DoubleText p text) (hcat : t.category = p.category)
    (hlex : t.lexeme = .text (String.ofList (text.drop p.offset)))
    (hraw : t.raw code = text ++ ['"'] ∨ t.raw code = text ∧ t.stop = code.length) :
    t.Faithful code := by
  obtain ⟨content, rfl⟩ := h.shape
  rw [h.category] at hcat
  rw [h.offset] at hlex
  simp only [Token.Faithful, hcat]
  exact ⟨content, hlex, hraw⟩

theorem SingleText.faithful (h : SingleText p text) (hcat : t.category = p.category)
    (hlex : t.lexeme = .text (String.ofList (text.drop p.offset)))
    (hraw : t.raw code = text ++ ['\''] ∨ t.raw code = text ∧ t.stop = code.length) :
    t.Faithful code := by
  cases h with
  | plain hp hoff =>
    rw [hp] at hcat
    rw [hoff] at hlex
    simp only [Token.Faithful, hcat]
    exact .inl ⟨_, hlex, hraw⟩
  | marked hp hoff =>
    rw [hoff] at hlex
    obtain ⟨hmark, hp⟩ | ⟨hmark, hp⟩ | ⟨hmark, hp⟩ := hp <;> rw [hp] at hcat <;>
      simp only [Token.Faithful, hcat]
    · exact ⟨_, CharClass.isBinaryMark_iff.1 hmark, _, hlex, hraw⟩
    · exact ⟨_, CharClass.isHexMark_iff.1 hmark, _, hlex, hraw⟩
    · exact .inr ⟨_, hmark, _, hlex, hraw⟩

end

/-! ## The tokens of transitions -/

section
variable {code : List Char} {cursor : Cursor} {c : Char} {mode next : Mode} {faults : List Fault}
  {t : Token} {n : Nat}

theorem raw_eq_slice (hcode : cursor.chars = code.toArray) (t : Token) :
    t.raw code = cursor.slice t.start t.stop := by
  rw [Token.raw, Cursor.slice_of_chars hcode]

/-- What leads a name in is part of it, so its lexeme is the text it covers. -/
theorem Pending.faithful_name {p : Pending} (hcode : cursor.chars = code.toArray)
    (hname : p.category.isName = true) (hoff : p.offset = 0) (stop : Nat) :
    (p.token cursor stop stop).Faithful code := by
  have hne : p.category ≠ .whitespace := by
    intro hcat
    rw [hcat] at hname
    exact absurd hname (by decide)
  rw [Pending.token, if_neg hne, hoff, Nat.add_zero]
  exact Token.faithful_tag_name hname (Cursor.slice_of_chars hcode p.start stop).symm

theorem WordText.exists_letter {p : Pending} {text : List Char} (h : WordText p text) :
    ∃ letter ∈ text, (CharClass.of letter).isLetterClass = true := by
  obtain ⟨sign, letter, rest, rfl, -, hletter, -⟩ := h.shape
  exact ⟨letter, by simp, hletter⟩

/-- A word is a name or a keyword, since no symbol has a letter in it. -/
theorem Pending.token_of_isName {p : Pending} {stop : Nat} (hname : p.category.isName = true)
    (hoff : p.offset = 0) {letter : Char} (hmem : letter ∈ cursor.slice p.start stop)
    (hletter : (CharClass.of letter).isLetterClass = true) :
    p.token cursor stop stop =
        ⟨p.category, .text (String.ofList (cursor.slice p.start stop)), p.start, stop, p.invalid⟩ ∨
      ∃ k : Keyword, k.spelling = String.ofList (cursor.slice p.start stop) ∧
        p.token cursor stop stop = ⟨.keyword, .keyword k, p.start, stop, p.invalid⟩ := by
  have hne : p.category ≠ .whitespace := by
    intro hcat
    rw [hcat] at hname
    exact absurd hname (by decide)
  have hres : p.category.isReservable = true := by
    rw [Category.isReservable, hname]
    rfl
  rw [Pending.token, if_neg hne, hoff, Nat.add_zero]
  simp only [Token.tag, Token.classify, hres, if_true, Reserved.ofSpelling?_of_mem hmem hletter]
  cases hlook : Keyword.ofSpelling? (String.ofList (cursor.slice p.start stop)) with
  | none => exact .inl rfl
  | some k => exact .inr ⟨k, Keyword.spelling_of_ofSpelling? hlook, rfl⟩

theorem category_closedNumber (cursor : Cursor) {p : Pending} {radix : Radix} {text : List Char}
    (h : NumberText p radix text) (stop : Nat) :
    (closedNumber cursor p stop).category = p.category := by
  unfold closedNumber
  split
  · exact (Pending.token_of_isLiteral cursor (.inl h.invalidated.isNumber) stop stop).1
  · exact (Pending.token_of_isLiteral cursor (.inl h.isNumber) stop stop).1

theorem lexeme_closedNumber (cursor : Cursor) {p : Pending} {radix : Radix} {text : List Char}
    (h : NumberText p radix text) (stop : Nat) : (closedNumber cursor p stop).lexeme =
      .text (String.ofList ((cursor.slice p.start stop).drop p.offset)) := by
  unfold closedNumber
  split
  · exact (Pending.token_of_isLiteral cursor (.inl h.invalidated.isNumber) stop stop).2
  · exact (Pending.token_of_isLiteral cursor (.inl h.isNumber) stop stop).2

/-- A part of a number that ends without a delimiter. -/
theorem NumberText.faithful_closedNumber {p : Pending} {radix : Radix} {stop : Nat}
    (hcode : cursor.chars = code.toArray) (h : NumberText p radix (cursor.slice p.start stop)) :
    (closedNumber cursor p stop).Faithful code := by
  have hraw : (closedNumber cursor p stop).raw code = cursor.slice p.start stop := by
    rw [raw_eq_slice hcode, start_closedNumber, stop_closedNumber]
  unfold closedNumber at hraw ⊢
  split at hraw
  · next hrep =>
    rw [if_pos hrep]
    obtain ⟨hcat, hlex⟩ :=
      Pending.token_of_isLiteral cursor (.inl h.invalidated.isNumber) stop stop
    exact h.invalidated.faithful hcat hlex (.inl hraw)
  · next hrep =>
    rw [if_neg hrep]
    obtain ⟨hcat, hlex⟩ := Pending.token_of_isLiteral cursor (.inl h.isNumber) stop stop
    exact h.faithful hcat hlex (.inl hraw)

theorem Emits.faithful (h : Emits cursor c faults t next n) (hcode : cursor.chars = code.toArray)
    (hc : cursor.current? = some c) : t.Faithful code := by
  have hone : (code.take (cursor.position + 1)).drop cursor.position = [c] := by
    rw [← Cursor.slice_singleton hc, Cursor.slice_of_chars hcode]
  cases h with
  | symbol h hs hu =>
    refine Token.faithful_ofSymbol ?_
    rw [hone, Symbol.chars_of_ofChars? hs]
  | illegal h =>
    rw [Token.tag, Token.classify, Reserved.ofSpelling?_of_other h]
    refine .inr ⟨c, hone, h, ?_⟩
    rw [String.singleton_eq_ofList]
    rfl
  | documentation h =>
    have hlt := Cursor.position_lt_of_current? hc
    have hraw := raw_eq_slice hcode (.tag .documentation
      (some (String.ofList (documentationText (cursor.slice cursor.position cursor.size))))
      cursor.position cursor.size false)
    rw [start_tag, stop_tag] at hraw
    refine ⟨Cursor.size_of_chars hcode, ?_, ?_⟩
    · rw [hraw, List.head?_eq_getElem?, Cursor.getElem?_slice hlt, Nat.add_zero,
        ← CharClass.of_eq_hash_iff.1 h]
      exact hc
    · rw [hraw]
      rfl

/-- A fraction of one character is a point. -/
theorem NumberText.eq_point {p : Pending} {radix : Radix} (h : NumberText p radix (p.text cursor))
    (hcat : p.category = .fraction) (hwidth : p.width cursor.position = 1) :
    p.text cursor = ['.'] := by
  have hlen : (p.text cursor).length = 1 := (p.length_text cursor).trans hwidth
  generalize p.text cursor = text at h hlen
  cases h with
  | fraction hp hoff hdigits =>
    rw [List.length_cons, Nat.add_eq_right, List.length_eq_zero_iff] at hlen
    rw [hlen]
  | integer hp | binary hp | hexadecimal hp | repetend hp => exact nomatch hcat.symm.trans hp

theorem Closes.faithful (h : Closes cursor c mode faults t next n)
    (hcode : cursor.chars = code.toArray) (hd : mode.Describes cursor)
    (hc : cursor.current? = some c) : t.Faithful code := by
  -- the text up to the cursor, and the same with the current character
  have hslice := Cursor.slice_of_chars hcode
  have hsucc : ∀ {p : Pending}, mode.pending? = some p →
      cursor.slice p.start (cursor.position + 1) = p.text cursor ++ [c] := by
    intro p hp
    exact Cursor.slice_succ (Nat.le_of_lt (hd.start_lt hp)) hc
  cases h with
  | whitespace h h' =>
    refine BlankText.faithful hd ?_
    rw [raw_eq_slice hcode, Pending.start_token, Pending.stop_token]
    rfl
  | pair hfirst h hs =>
    refine Token.faithful_ofSymbol ?_
    rw [← hslice, hsucc rfl, hd.text_symbol hfirst, Symbol.chars_of_ofChars? hs]
    rfl
  | symbol hfirst hs =>
    refine Token.faithful_ofSymbol ?_
    rw [← hslice, Symbol.chars_of_ofChars? hs]
    exact hd.text_symbol hfirst
  | @predicate p h =>
    have hoff : p.offset = 0 := WordText.offset hd
    exact Pending.faithful_name (p := p.recast .predicate) hcode rfl hoff _
  | word h => exact Pending.faithful_name hcode (WordText.category hd) (WordText.offset hd) _
  | @range p radix h hcat hwidth =>
    refine Token.faithful_ofSymbol ?_
    rw [← hslice, hsucc rfl, NumberText.eq_point hd hcat hwidth, h]
    rfl
  | repetend h hrep =>
    obtain ⟨hcat, hlex⟩ := Pending.token_of_isLiteral cursor (.inl (NumberText.isNumber hd))
      cursor.position (cursor.position + 1)
    refine NumberText.faithful hd hcat hlex (.inr ⟨hrep, ?_⟩)
    rw [raw_eq_slice hcode, Pending.start_token, Pending.stop_token, hsucc rfl, h]
  | numberGap h => exact NumberText.faithful_closedNumber hcode hd
  | number h => exact NumberText.faithful_closedNumber hcode hd
  | doubleQuoted h =>
    obtain ⟨hcat, hlex⟩ := Pending.token_of_isLiteral cursor (.inr (DoubleText.isQuoting hd))
      cursor.position (cursor.position + 1)
    refine DoubleText.faithful hd hcat hlex (.inl ?_)
    rw [raw_eq_slice hcode, Pending.start_token, Pending.stop_token, hsucc rfl, h]
  | singleQuoted h =>
    obtain ⟨hcat, hlex⟩ := Pending.token_of_isLiteral cursor (.inr (SingleText.isQuoting hd))
      cursor.position (cursor.position + 1)
    refine SingleText.faithful hd hcat hlex (.inl ?_)
    rw [raw_eq_slice hcode, Pending.start_token, Pending.stop_token, hsucc rfl, h]

theorem HandsOver.faithful (h : HandsOver cursor c mode faults t next)
    (hcode : cursor.chars = code.toArray) (hd : mode.Describes cursor) : t.Faithful code := by
  have hplain : ∀ {p : Pending} {radix : Radix}, NumberText p radix (p.text cursor) →
      (p.token cursor cursor.position cursor.position).Faithful code := by
    intro p radix hnumber
    obtain ⟨hcat, hlex⟩ := Pending.token_of_isLiteral cursor (.inl hnumber.isNumber)
      cursor.position cursor.position
    refine hnumber.faithful hcat hlex (.inl ?_)
    rw [raw_eq_slice hcode, Pending.start_token, Pending.stop_token]
    rfl
  cases h with
  | fraction | repetend | pointless => exact hplain hd
  | secondPoint => exact NumberText.faithful_closedNumber hcode hd

theorem Finishes.faithful (h : Finishes cursor mode faults t)
    (hcode : cursor.chars = code.toArray) (hd : mode.Describes cursor)
    (hend : cursor.position = cursor.size) : t.Faithful code := by
  have hsize := Cursor.size_of_chars hcode
  have htext : ∀ p : Pending, cursor.slice p.start cursor.size = p.text cursor := by
    intro p
    rw [Pending.text, hend]
  have hraw : ∀ p : Pending,
      (p.token cursor cursor.size cursor.size).raw code = p.text cursor := by
    intro p
    rw [raw_eq_slice hcode, Pending.start_token, Pending.stop_token, htext]
  cases h with
  | whitespace => exact BlankText.faithful hd (hraw _)
  | symbol hfirst hs =>
    refine Token.faithful_ofSymbol ?_
    rw [← Cursor.slice_of_chars hcode, htext, hd.text_symbol hfirst, Symbol.chars_of_ofChars? hs]
  | word => exact Pending.faithful_name hcode (WordText.category hd) (WordText.offset hd) _
  | @number p radix =>
    have hnumber : NumberText p radix (cursor.slice p.start cursor.size) := by
      rw [htext]
      exact hd
    exact hnumber.faithful_closedNumber hcode
  | doubleQuoted =>
    obtain ⟨hcat, hlex⟩ := Pending.token_of_isLiteral cursor (.inr (DoubleText.isQuoting hd))
      cursor.size cursor.size
    rw [htext] at hlex
    refine DoubleText.faithful hd hcat hlex (.inr ⟨hraw _, ?_⟩)
    rw [Pending.stop_token, hsize]
  | singleQuoted =>
    obtain ⟨hcat, hlex⟩ := Pending.token_of_isLiteral cursor (.inr (SingleText.isQuoting hd))
      cursor.size cursor.size
    rw [htext] at hlex
    refine SingleText.faithful hd hcat hlex (.inr ⟨hraw _, ?_⟩)
    rw [Pending.stop_token, hsize]

/-- A transition emits faithful tokens only. -/
theorem Transition.faithful {s : Step} (h : Transition cursor c mode s)
    (hcode : cursor.chars = code.toArray) (hd : mode.Describes cursor)
    (hc : cursor.current? = some c) : ∀ t ∈ s.output.tokens, t.Faithful code := by
  cases h with
  | opens h | resumes h => exact fun _ ht => absurd ht List.not_mem_nil
  | emits h => exact List.forall_mem_singleton.2 (h.faithful hcode hc)
  | closes h => exact List.forall_mem_singleton.2 (h.faithful hcode hd hc)
  | handsOver h => exact List.forall_mem_singleton.2 (h.faithful hcode hd)

/-- The tokens of a line are faithful to it. -/
theorem scan_faithful (code : List Char) : ∀ t ∈ (scan code).tokens, t.Faithful code := by
  apply scan_induction (P := fun output => ∀ t ∈ output.tokens, t.Faithful code)
  case empty => exact fun _ ht => absurd ht List.not_mem_nil
  case append => exact fun ha hb => List.forall_mem_append.2 ⟨ha, hb⟩
  case step => exact fun h hc htransition => htransition.faithful h.chars h.describes hc
  case finish =>
    intro mode cursor output faults t h hend hfin
    exact List.forall_mem_singleton.2 (hfin.faithful h.chars h.describes hend)

end

end Scan

/-- Every token of a line says what it covers: its lexeme, its identity if it is reserved, and the
delimiters around its lexeme. Whitespace alone has no lexeme. -/
theorem tokenize_faithful (line : Line) (t : Token) (ht : t ∈ line.tokenize.1) :
    t.Faithful line.code.toList ∧ (t.lexeme = .none ↔ t.category = .whitespace) ∧
      (t.category.isReservable = true ∨ t.category = .integer →
        t.lexeme.spelling? = some (String.ofList (t.raw line.code.toList))) := by
  have hfaithful := Scan.scan_faithful line.code.toList t ht
  exact ⟨hfaithful, hfaithful.lexeme_eq_none_iff, hfaithful.spelling?⟩

/-- A literal that is not closed, behind a name that is too long to be its mark. -/
theorem tokenize_faithful_unclosed :
    (⟨3, 1, "-b'01", none⟩ : Line).tokenize.1 =
        [⟨.label, .text "-b", 0, 2, false⟩, ⟨.rawString, .text "01", 2, 5, true⟩] ∧
      (⟨.rawString, .text "01", 2, 5, true⟩ : Token).Faithful "-b'01".toList := by
  have htokens : (⟨3, 1, "-b'01", none⟩ : Line).tokenize.1 =
      [⟨.label, .text "-b", 0, 2, false⟩, ⟨.rawString, .text "01", 2, 5, true⟩] := by cbv
  refine ⟨htokens, (tokenize_faithful ⟨3, 1, "-b'01", none⟩ _ ?_).1⟩
  rw [htokens]
  exact List.mem_cons_of_mem _ List.mem_cons_self

end LineLexer
