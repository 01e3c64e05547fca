import LineLexer.Proofs.Separation

/-!
# What is wrong with a character

Whether a character is out of place follows from the token that covers it: a tab in whitespace,
a character that no name has in it, a character without a class, a character that is no digit
of the radix. `diagnosis?` reads that off the tokens.

While a token is under construction, `Mode.verdict` plays the part of the token, and the token
that comes out of it sees its characters in the same way: `Renders`.

* `Token.verdict`, `diagnosis?`: what is wrong with a character, by the token that covers it;
* `Mode.Describes.heeds`: outside of quotes, a stray character is found fault with;
* `Closes.renders`, `HandsOver.renders`, `Finishes.renders`: the three ways to end a token.
-/

namespace LineLexer

open Scan (Radix)

/-! ## What the tokens say about a character -/

/-- The issues about a single character. -/
def SyntaxIssue.isCharacter (issue : SyntaxIssue) : Bool :=
  11 ≤ issue.code && issue.code ≤ 17

/-- The radix that an integer gives to the number it leads. -/
def Category.radix? : Category → Option Radix
  | .integer => some .decimal
  | .binaryInteger => some .binary
  | .hexadecimalInteger => some .hexadecimal
  | _ => none

/-- Leading characters of a part of a number that its lexeme leaves out. -/
def Category.lead : Category → Nat
  | .binaryInteger | .hexadecimalInteger => 2
  | .fraction | .repetend => 1
  | _ => 0

/-- A column of the span of a token. -/
def Token.covers (t : Token) (column : Nat) : Bool :=
  t.start ≤ column && column < t.stop

/-- A column of the lexeme of a part of a number. -/
def Token.coversLexeme (t : Token) (column : Nat) : Bool :=
  t.start + t.category.lead ≤ column &&
    column < t.start + t.category.lead + t.lexeme.spelling.length

/-- The issue of a character in whitespace. -/
def blankIssue? (column : Nat) (c : Char) : Option SyntaxIssue :=
  if c = '\t' then some (Scan.tabIssue column) else none

/-- The issue of a character in a name. -/
def wordIssue? (c : Char) : Option SyntaxIssue :=
  match CharClass.of c with
  | .punctuation | .other => some .illegalCharacterInWord
  | _ => none

/-- The issue of a character that stands for itself. -/
def symbolIssue? (c : Char) : Option SyntaxIssue :=
  if CharClass.of c = .other then some .illegalCharacter else none

/-- The issue of a character among the digits of a radix. -/
def Scan.Radix.issue? (radix : Radix) (c : Char) : Option SyntaxIssue :=
  if radix.accepts c then none else some (Scan.digitIssue radix)

/-- What is wrong with a character that a token covers; the radix is the one of the number. -/
def Token.verdict (t : Token) (radix? : Option Radix) (column : Nat) (c : Char) :
    Option SyntaxIssue :=
  match t.category with
  | .whitespace => blankIssue? column c
  | .uncapitalizedName | .label | .predicate | .capitalizedName => wordIssue? c
  | .punctuation => if t.width = 1 then symbolIssue? c else none
  | .integer | .binaryInteger | .hexadecimalInteger | .fraction | .repetend =>
    if t.coversLexeme column then radix?.bind (·.issue? c) else none
  | .keyword | .string | .rawString | .binary | .hex | .documentation => none

/-- The radix of the last integer among some tokens. -/
def lastRadix? (tokens : List Token) : Option Radix :=
  (tokens.filterMap (·.category.radix?)).getLast?

/-- The radix of the nearest integer at a column or before it. -/
def nearestRadix? (tokens : List Token) (column : Nat) : Option Radix :=
  lastRadix? (tokens.filter (·.start ≤ column))

/-- What is wrong with the character at a column, by the token that covers it. -/
def diagnosis? (code : List Char) (tokens : List Token) (column : Nat) : Option SyntaxIssue := do
  let c ← code[column]?
  let t ← tokens.find? (·.covers column)
  t.verdict (nearestRadix? tokens column) column c

/-- The location of a single column in a line. -/
def Line.columnAt (line : Line) (column : Nat) : Locations :=
  .single ⟨line.number, line.level, column, column + 1⟩

theorem Token.covers_iff {t : Token} {column : Nat} :
    t.covers column = true ↔ t.start ≤ column ∧ column < t.stop := by
  simp [covers]

/-- A column of a run that tokens cover lies in one of them. -/
theorem Tiles.exists_covers {a b column : Nat} {ts : List Token} (h : Tiles a ts b)
    (hle : a ≤ column) (hlt : column < b) : ∃ t ∈ ts, t.covers column = true := by
  induction ts generalizing a with
  | nil =>
    have hab : a = b := h
    omega
  | cons t ts ih =>
    obtain ⟨hstart, -, hrest⟩ := h
    by_cases hcolumn : column < t.stop
    · refine ⟨t, List.mem_cons_self, Token.covers_iff.2 ⟨?_, hcolumn⟩⟩
      omega
    · obtain ⟨u, hu, hcovers⟩ := ih hrest (Nat.le_of_not_lt hcolumn)
      exact ⟨u, List.mem_cons_of_mem t hu, hcovers⟩

/-! ## More tokens -/

section
variable {code : List Char} {tokens : List Token} {t : Token} {column : Nat}

theorem lastRadix?_append_singleton (tokens : List Token) (t : Token) :
    lastRadix? (tokens ++ [t]) = t.category.radix?.or (lastRadix? tokens) := by
  cases hradix : t.category.radix? <;> simp [lastRadix?, hradix]

/-- A token that starts behind a column does not count there. -/
theorem nearestRadix?_append_of_lt (h : column < t.start) :
    nearestRadix? (tokens ++ [t]) column = nearestRadix? tokens column := by
  have hafter : [t].filter (·.start ≤ column) = [] := by
    refine List.filter_eq_nil_iff.2 (List.forall_mem_singleton.2 fun hle => ?_)
    have hstart := of_decide_eq_true hle
    omega
  rw [nearestRadix?, nearestRadix?, List.filter_append, hafter, List.append_nil]

/-- At the columns of the last token, all tokens count. -/
theorem nearestRadix?_append_of_le (h : Tiles 0 tokens t.start) (hle : t.start ≤ column) :
    nearestRadix? (tokens ++ [t]) column = t.category.radix?.or (lastRadix? tokens) := by
  have hbefore : ∀ u ∈ tokens ++ [t], decide (u.start ≤ column) = true := by
    intro u hu
    rcases List.mem_append.1 hu with hu | hu
    · have hbounds := h.bounds u hu
      exact decide_eq_true (by omega)
    · rw [List.mem_singleton.1 hu]
      exact decide_eq_true hle
  rw [nearestRadix?, List.filter_eq_self.2 hbefore, lastRadix?_append_singleton]

/-- A column that is covered keeps its diagnosis. -/
theorem diagnosis?_append_of_lt (h : Tiles 0 tokens t.start) (hlt : column < t.start) :
    diagnosis? code (tokens ++ [t]) column = diagnosis? code tokens column := by
  obtain ⟨u, hu, hcovers⟩ := h.exists_covers (Nat.zero_le column) hlt
  have hfind : (tokens ++ [t]).find? (·.covers column) = tokens.find? (·.covers column) := by
    have hsome : (tokens.find? (·.covers column)).isSome = true :=
      List.find?_isSome.2 ⟨u, hu, hcovers⟩
    obtain ⟨v, hv⟩ := Option.isSome_iff_exists.1 hsome
    rw [List.find?_append, hv, Option.some_or]
  simp only [diagnosis?, hfind, nearestRadix?_append_of_lt hlt]

/-- A column of a new token is diagnosed by that token. -/
theorem diagnosis?_append_of_covers (h : Tiles 0 tokens t.start)
    (hcovers : t.covers column = true) :
    diagnosis? code (tokens ++ [t]) column =
      code[column]?.bind (t.verdict (t.category.radix?.or (lastRadix? tokens)) column) := by
  obtain ⟨hle, hlt⟩ := Token.covers_iff.1 hcovers
  have hfind : (tokens ++ [t]).find? (·.covers column) = some t := by
    have hnone : tokens.find? (·.covers column) = none := by
      refine List.find?_eq_none.2 fun u hu hcovers' => ?_
      have hbounds := h.bounds u hu
      have hcolumn := Token.covers_iff.1 hcovers'
      omega
    rw [List.find?_append, hnone, Option.none_or, List.find?_singleton, if_pos hcovers]
  rw [diagnosis?, hfind, nearestRadix?_append_of_le h hle]
  rfl

end

namespace Scan

/-! ## What a mode says about a character -/

/-- What is wrong with a character of the token under construction. -/
def Mode.verdict (mode : Mode) (column : Nat) (c : Char) : Option SyntaxIssue :=
  match mode with
  | .whitespace _ => blankIssue? column c
  | .word _ => wordIssue? c
  | .number p radix => if p.start + p.offset ≤ column then radix.issue? c else none
  | _ => none

/-- The radix of the number under construction. -/
def Mode.radix? : Mode → Option Radix
  | .number _ radix => some radix
  | _ => none

/-- The classes of characters that have no place outside of quotes and documentation. -/
def isStray : CharClass → Bool
  | .tab | .other => true
  | _ => false

section
variable {t : Token} {radix? : Option Radix} {column : Nat} {c : Char}

theorem verdict_of_isName (h : t.category.isName = true) :
    t.verdict radix? column c = wordIssue? c := by
  unfold Token.verdict
  cases hcat : t.category <;> rw [hcat] at h <;> first | rfl | exact absurd h (by decide)

theorem verdict_of_isQuoting (h : t.category.isQuoting = true) :
    t.verdict radix? column c = none := by
  unfold Token.verdict
  cases hcat : t.category <;> rw [hcat] at h <;> first | rfl | exact absurd h (by decide)

theorem verdict_of_isNumber (h : t.category.isNumber = true) :
    t.verdict radix? column c =
      if t.coversLexeme column then radix?.bind (·.issue? c) else none := by
  unfold Token.verdict
  cases hcat : t.category <;> rw [hcat] at h <;> first | rfl | exact absurd h (by decide)

/-- Nothing is wrong with the characters of a symbol. -/
theorem verdict_ofSymbol {s : Symbol} {start stop : Nat}
    (h : stop = start + 1 → CharClass.of c ≠ .other) :
    (Token.ofSymbol s start stop).verdict radix? column c = none := by
  show (if stop - start = 1 then symbolIssue? c else none) = none
  split
  · rw [symbolIssue?, if_neg (h (by omega))]
  · rfl

/-- A character without a class is found fault with by its own token. -/
theorem verdict_illegal {position : Nat} {invalid : Bool} (h : CharClass.of c = .other) :
    (Token.tag .punctuation (some (String.singleton c)) position (position + 1) invalid).verdict
      radix? column c = some .illegalCharacter := by
  have hissue : symbolIssue? c = some .illegalCharacter := if_pos h
  have hwidth : position + 1 - position = 1 := by omega
  rw [Token.tag, Token.classify, Reserved.ofSpelling?_of_other h]
  show (if position + 1 - position = 1 then symbolIssue? c else none) = some .illegalCharacter
  rw [if_pos hwidth, hissue]

theorem isStray_of_isSymbolic {k : CharClass} (h : k.isSymbolic = true) : isStray k = false := by
  cases k <;> first | rfl | exact absurd h (by decide)

theorem isStray_of_isAlphanumeric (h : IsAlphanumeric c) : isStray (CharClass.of c) = false := by
  rcases h with h | h
  · rw [h]
    rfl
  · cases hk : CharClass.of c <;> rw [hk] at h <;> first | rfl | exact absurd h (by decide)

theorem ne_other_of_isStray (h : isStray (CharClass.of c) = false) : CharClass.of c ≠ .other := by
  intro hother
  rw [hother] at h
  exact absurd h (by decide)

theorem wordIssue?_of_isLetterClass (h : (CharClass.of c).isLetterClass = true) :
    wordIssue? c = none := by
  unfold wordIssue?
  cases hk : CharClass.of c <;> rw [hk] at h <;> first | rfl | exact absurd h (by decide)

/-- Keywords consist of characters that names may have. -/
theorem wordIssue?_of_mem_keyword {k : Keyword} (h : c ∈ k.spelling.toList) :
    wordIssue? c = none := by
  have hall : (Keyword.all.all fun k => k.spelling.toList.all fun c => wordIssue? c = none) =
      true := by decide +kernel
  exact of_decide_eq_true (List.all_eq_true.1 (List.all_eq_true.1 hall k k.mem_all) c h)

end

/-! ## The characters of a text -/

section
variable {p : Pending} {radix : Radix} {text : List Char} {c : Char}

theorem NumberText.offset_eq (h : NumberText p radix text) :
    p.offset = p.category.lead := by
  cases h with
  | integer hcat hoff | binary hcat hoff | hexadecimal hcat hoff | fraction hcat hoff
  | repetend hcat hoff =>
    rw [hcat, hoff]
    rfl

/-- A word consists of characters that go on with one. -/
theorem WordText.continuesWord_of_mem (h : WordText p text) (hc : c ∈ text) :
    continuesWord (CharClass.of c) = true := by
  obtain ⟨sign, letter, rest, rfl, hsign, hletter, hrest⟩ := h.shape
  simp only [List.mem_append, List.mem_cons] at hc
  rcases hc with hc | rfl | hc
  · rcases hsign with rfl | ⟨d, rfl, hd⟩
    · exact absurd hc List.not_mem_nil
    · rw [List.mem_singleton.1 hc, CharClass.of_eq_sign_iff.2 hd]
      rfl
  · cases hk : CharClass.of c <;> rw [hk] at hletter <;>
      first | rfl | exact absurd hletter (by decide)
  · exact hrest c hc

end

/-- A character that has no place in the token under construction is found fault with, unless it
is quoted. -/
theorem Mode.Describes.heeds {mode : Mode} {cursor : Cursor} {p : Pending} {column : Nat} {c : Char}
    (hd : mode.Describes cursor) (hp : mode.pending? = some p)
    (hc : cursor.charAt? column = some c) (hle : p.start ≤ column) (hlt : column < cursor.position)
    (hstray : isStray (CharClass.of c) = true) :
    mode.isQuoted = true ∨ mode.radix? = none ∧ (mode.verdict column c).isSome = true := by
  have hmem : c ∈ p.text cursor := Cursor.mem_slice hc hle hlt
  cases mode <;> simp only [Mode.pending?, Option.some.injEq, reduceCtorEq] at hp <;> subst hp
  case whitespace =>
    refine .inr ⟨rfl, ?_⟩
    rcases BlankText.blank hd c hmem with rfl | rfl
    · exact absurd hstray (by decide)
    · rfl
  case symbol =>
    obtain ⟨first, s, htext, hs, -⟩ := HeldText.held hd
    have hfirst : c ∈ s.chars := by
      rw [htext] at hmem
      rwa [Symbol.chars_of_ofChars? hs]
    rw [isStray_of_isSymbolic (CharClass.isSymbolic_of_mem_chars hfirst)] at hstray
    exact absurd hstray Bool.false_ne_true
  case word =>
    have hword := WordText.continuesWord_of_mem hd hmem
    refine .inr ⟨rfl, ?_⟩
    show (wordIssue? c).isSome = true
    unfold wordIssue?
    cases hk : CharClass.of c <;> rw [hk] at hstray hword <;>
      first | rfl | exact absurd hstray (by decide) | exact absurd hword (by decide)
  case number =>
    have hnot : isStray (CharClass.of c) = false := by
      rcases NumberText.alphanumeric_or_lead hd hmem with hc | rfl | rfl
      · exact isStray_of_isAlphanumeric hc
      · rfl
      · rfl
    rw [hnot] at hstray
    exact absurd hstray Bool.false_ne_true
  case doubleQuoted | singleQuoted => exact .inl rfl

/-! ## Tokens that see their characters as the mode did -/

/-- A token that ends the one under construction and sees its characters as the mode did. What
stands behind the cursor delimits it. -/
structure Renders (mode : Mode) (cursor : Cursor) (t : Token) : Prop where
  /-- Up to the cursor, the token finds the same faults as the mode. -/
  verdict : ∀ {radix? column c}, (∀ radix, mode.radix? = some radix → radix? = some radix) →
    t.start ≤ column → column < cursor.position → cursor.charAt? column = some c →
    t.verdict radix? column c = mode.verdict column c
  /-- There is nothing wrong with what delimits the token. -/
  delimiter : ∀ {radix? column c}, cursor.position ≤ column → column < t.stop →
    cursor.charAt? column = some c →
    t.verdict radix? column c = none ∧ isStray (CharClass.of c) = false
  /-- An integer gives the radix that the mode says. -/
  radix : ∀ {p radix}, mode = .number p radix → t.category.radix? = p.category.radix?
  /-- What is no number does not become one. -/
  number : t.category.isNumber = true → mode.radix?.isSome = true
  /-- What is quoted becomes a quoted literal. -/
  quoting : mode.isQuoted = true → t.category.isQuoting = true

section
variable {cursor : Cursor} {p : Pending}

theorem renders_blank (hd : (Mode.whitespace p).Describes cursor) :
    Renders (.whitespace p) cursor (p.token cursor cursor.position cursor.position) := by
  have hcat : p.category = .whitespace := BlankText.category hd
  constructor
  case verdict =>
    intro radix? column c _ _ _ _
    rw [Pending.token, if_pos hcat]
    rfl
  case delimiter =>
    intro radix? column c hle hlt
    rw [Pending.stop_token] at hlt
    omega
  case radix => exact fun h => Mode.noConfusion h
  case number =>
    intro hnumber
    rw [Pending.token, if_pos hcat] at hnumber
    exact absurd hnumber Bool.false_ne_true
  case quoting => exact fun h => absurd h Bool.false_ne_true

/-- A symbol that covers the text of a pending token. -/
theorem renders_held {first : Char} {s : Symbol} (hd : (Mode.symbol p).Describes cursor)
    (hs : Symbol.ofChar? first = some s) (hfirst : cursor.charAt? p.start = some first) :
    Renders (.symbol p) cursor (.ofSymbol s p.start cursor.position) := by
  constructor
  case verdict =>
    intro radix? column c _ hle hlt hc
    apply verdict_ofSymbol
    have hmem : c ∈ p.text cursor := Cursor.mem_slice hc hle hlt
    rw [hd.text_symbol hfirst] at hmem
    have hchars : c ∈ s.chars := by rwa [Symbol.chars_of_ofChars? hs]
    intro _
    exact ne_other_of_isStray (isStray_of_isSymbolic (CharClass.isSymbolic_of_mem_chars hchars))
  case delimiter =>
    intro radix? column c hle hlt
    have hstop : (Token.ofSymbol s p.start cursor.position).stop = cursor.position := rfl
    omega
  case radix => exact fun h => Mode.noConfusion h
  case number => exact fun h => absurd h Bool.false_ne_true
  case quoting => exact fun h => absurd h Bool.false_ne_true

/-- A symbol of two characters. -/
theorem renders_pair {mode : Mode} {s : Symbol} {d : Char} (hlt : p.start < cursor.position)
    (hmode : ∀ column c, column < cursor.position → mode.verdict column c = none)
    (hradix : ∀ {p radix}, mode = .number p radix → p.category.radix? = none)
    (hquoted : mode.isQuoted = false) (hd : cursor.current? = some d)
    (hsymbolic : (CharClass.of d).isSymbolic = true) :
    Renders mode cursor (.ofSymbol s p.start (cursor.position + 1)) := by
  have hwide : ∀ {radix? column c},
      (Token.ofSymbol s p.start (cursor.position + 1)).verdict radix? column c = none := by
    intro radix? column c
    exact verdict_ofSymbol fun hstop => by omega
  constructor
  case verdict =>
    intro radix? column c _ _ hcolumn _
    rw [hwide, hmode column c hcolumn]
  case delimiter =>
    intro radix? column c hle hcolumn hc
    have hstop : (Token.ofSymbol s p.start (cursor.position + 1)).stop = cursor.position + 1 := rfl
    obtain rfl : column = cursor.position := by omega
    obtain rfl : d = c := Option.some.inj (hd.symm.trans hc)
    exact ⟨hwide, isStray_of_isSymbolic hsymbolic⟩
  case radix => exact fun h => (hradix h).symm
  case number => exact fun h => absurd h Bool.false_ne_true
  case quoting => exact fun h => absurd (hquoted.symm.trans h) Bool.false_ne_true

/-- A word sees its characters alike whether it turns out to be a keyword or not. -/
theorem verdict_token_name {radix? : Option Radix} {stop column : Nat} {letter c : Char}
    (hname : p.category.isName = true) (hoffset : p.offset = 0)
    (hmem : letter ∈ cursor.slice p.start stop)
    (hletter : (CharClass.of letter).isLetterClass = true) (hc : cursor.charAt? column = some c)
    (hle : p.start ≤ column) (hlt : column < stop) :
    (p.token cursor stop stop).verdict radix? column c = wordIssue? c := by
  obtain htoken | ⟨k, hspelling, htoken⟩ := Pending.token_of_isName hname hoffset hmem hletter
  · rw [htoken]
    exact verdict_of_isName hname
  · have hkeyword : c ∈ k.spelling.toList := by
      rw [hspelling, String.toList_ofList]
      exact Cursor.mem_slice hc hle hlt
    rw [htoken, wordIssue?_of_mem_keyword hkeyword]
    rfl

/-- A word, perhaps with the mark of a predicate behind it. -/
theorem renders_word {q : Pending} {stop : Nat} (hd : (Mode.word p).Describes cursor)
    (hname : q.category.isName = true) (hoffset : q.offset = 0) (hstart : q.start = p.start)
    (hstop : cursor.position ≤ stop)
    (hquery : ∀ column c, cursor.position ≤ column → column < stop →
      cursor.charAt? column = some c → c = '?') :
    Renders (.word p) cursor (q.token cursor stop stop) := by
  obtain ⟨letter, hletter, hclass⟩ := WordText.exists_letter hd
  have hmem : letter ∈ cursor.slice q.start stop := by
    have hstart_lt : p.start < cursor.position := hd.start_lt rfl
    rw [hstart, ← Cursor.slice_append (Nat.le_of_lt hstart_lt) hstop]
    exact List.mem_append_left _ hletter
  constructor
  case verdict =>
    intro radix? column c _ hle hlt hc
    rw [Pending.start_token] at hle
    exact verdict_token_name hname hoffset hmem hclass hc hle (by omega)
  case delimiter =>
    intro radix? column c hle hlt hc
    rw [Pending.stop_token] at hlt
    have hstart_lt : p.start < cursor.position := hd.start_lt rfl
    have hissue : (q.token cursor stop stop).verdict radix? column c = wordIssue? c :=
      verdict_token_name hname hoffset hmem hclass hc (by omega) hlt
    obtain rfl := hquery column c hle hlt hc
    exact ⟨hissue, rfl⟩
  case radix => exact fun h => Mode.noConfusion h
  case number =>
    intro hnumber
    exact absurd ((isNumber_token_name hname cursor _ _).symm.trans hnumber) Bool.false_ne_true
  case quoting => exact fun h => absurd h Bool.false_ne_true

/-- A part of a number, perhaps with a parenthesis behind it. -/
theorem renders_number {radix : Radix} {t : Token} (hd : (Mode.number p radix).Describes cursor)
    (hcat : t.category = p.category)
    (hlex : t.lexeme =
      .text (String.ofList ((cursor.slice p.start cursor.position).drop p.offset)))
    (hstart : t.start = p.start)
    (hclosing : ∀ column c, cursor.position ≤ column → column < t.stop →
      cursor.charAt? column = some c → c = ')') :
    Renders (.number p radix) cursor t := by
  have hoffset := NumberText.offset_eq hd
  have hlength : t.lexeme.spelling.length = cursor.position - p.start - p.offset := by
    rw [hlex]
    show (String.ofList _).length = _
    rw [String.length_ofList, List.length_drop, Cursor.length_slice cursor.position_le_size]
  have hverdict : ∀ {radix? column c}, t.verdict radix? column c =
      if t.coversLexeme column then radix?.bind (·.issue? c) else none := by
    intro radix? column c
    apply verdict_of_isNumber
    rw [hcat]
    exact NumberText.isNumber hd
  have hcovers : ∀ {column}, t.coversLexeme column =
      (decide (p.start + p.offset ≤ column) && decide (column < cursor.position)) := by
    intro column
    rw [Token.coversLexeme, hlength, hstart, hcat, ← hoffset, Bool.eq_iff_iff]
    simp only [Bool.and_eq_true, decide_eq_true_eq]
    omega
  constructor
  case verdict =>
    intro radix? column c hradix _ hlt _
    rw [hverdict, hcovers, hradix radix rfl, decide_eq_true hlt, Bool.and_true]
    simp only [decide_eq_true_eq, Option.bind_some, Mode.verdict]
  case delimiter =>
    intro radix? column c hle hlt hc
    obtain rfl := hclosing column c hle hlt hc
    rw [hverdict, hcovers, decide_eq_false (Nat.not_lt.2 hle), Bool.and_false]
    exact ⟨rfl, rfl⟩
  case radix =>
    intro p' radix' hmode
    injection hmode with hp
    rw [hcat, hp]
  case number => exact fun _ => rfl
  case quoting => exact fun h => absurd h Bool.false_ne_true

theorem renders_closedNumber {radix : Radix} (hd : (Mode.number p radix).Describes cursor) :
    Renders (.number p radix) cursor (closedNumber cursor p cursor.position) := by
  refine renders_number hd (category_closedNumber cursor hd _) (lexeme_closedNumber cursor hd _)
    (start_closedNumber _ _ _) fun column c hle hlt => ?_
  rw [stop_closedNumber] at hlt
  omega

/-- A quoted literal, perhaps with its closing quote. -/
theorem renders_quoted {mode : Mode} {lexemeStop stop : Nat} (hmode : mode.isQuoted = true)
    (hquoting : p.category.isQuoting = true)
    (hquote : ∀ column c, cursor.position ≤ column → column < stop →
      cursor.charAt? column = some c → isStray (CharClass.of c) = false) :
    Renders mode cursor (p.token cursor lexemeStop stop) := by
  have hcat : (p.token cursor lexemeStop stop).category.isQuoting = true := by
    rw [(Pending.token_of_isLiteral cursor (.inr hquoting) lexemeStop stop).1]
    exact hquoting
  constructor
  case verdict =>
    intro radix? column c _ _ _ _
    rw [verdict_of_isQuoting hcat]
    cases mode <;> first | rfl | exact absurd hmode Bool.false_ne_true
  case delimiter =>
    intro radix? column c hle hlt hc
    rw [Pending.stop_token] at hlt
    exact ⟨verdict_of_isQuoting hcat, hquote column c hle hlt hc⟩
  case radix =>
    rintro p' radix' rfl
    exact absurd hmode Bool.false_ne_true
  case number =>
    intro hnumber
    exact absurd ((isNumber_token_quoting hquoting cursor _ _).symm.trans hnumber)
      Bool.false_ne_true
  case quoting => exact fun _ => hcat

end

section
variable {cursor : Cursor} {c : Char} {mode next : Mode} {faults : List Fault} {t : Token} {n : Nat}

theorem Closes.renders (h : Closes cursor c mode faults t next n) (hd : mode.Describes cursor)
    (hc : cursor.current? = some c) : Renders mode cursor t := by
  -- a delimiter is the character at the cursor
  have hnone : ∀ {P : Char → Prop} column d, cursor.position ≤ column →
      column < cursor.position → cursor.charAt? column = some d → P d := by
    intro P column d hle hlt
    omega
  have hone : ∀ column d, cursor.position ≤ column → column < cursor.position + 1 →
      cursor.charAt? column = some d → d = c := by
    intro column d hle hlt hchar
    obtain rfl : column = cursor.position := by omega
    exact Option.some.inj (hchar.symm.trans hc)
  cases h with
  | whitespace => exact renders_blank hd
  | pair hfirst hclass =>
    exact renders_pair (hd.start_lt rfl) (fun _ _ _ => rfl) (fun h => nomatch h) rfl hc hclass
  | symbol hfirst hs => exact renders_held hd hs hfirst
  | @predicate p hquery =>
    have hoffset : p.offset = 0 := WordText.offset hd
    refine renders_word (q := p.recast .predicate) hd rfl hoffset rfl (Nat.le_succ _)
      fun column d hle hlt hchar => ?_
    rw [hone column d hle hlt hchar, hquery]
  | word =>
    exact renders_word hd (WordText.category hd) (WordText.offset hd) rfl (Nat.le_refl _) hnone
  | @range p radix hpoint hcat hwidth =>
    have hoffset : p.offset = 1 := by
      rw [NumberText.offset_eq hd, hcat]
      rfl
    refine renders_pair (hd.start_lt rfl) ?_ ?_ rfl hc (by rw [hpoint]; rfl)
    · intro column d hlt
      have hbefore : ¬p.start + p.offset ≤ column := by
        unfold Pending.width at hwidth
        omega
      exact if_neg hbefore
    · intro p' radix' hmode
      injection hmode with hp
      rw [← hp, hcat]
      rfl
  | @repetend p radix hright hcat =>
    obtain ⟨hcategory, hlexeme⟩ := Pending.token_of_isLiteral cursor
      (.inl (NumberText.isNumber hd)) cursor.position (cursor.position + 1)
    refine renders_number hd hcategory hlexeme (Pending.start_token _ _ _ _)
      fun column d hle hlt hchar => ?_
    rw [Pending.stop_token] at hlt
    rw [hone column d hle hlt hchar, hright]
  | numberGap | number => exact renders_closedNumber hd
  | doubleQuoted hquote =>
    refine renders_quoted rfl (DoubleText.isQuoting hd) fun column d hle hlt hchar => ?_
    rw [hone column d hle hlt hchar, hquote]
    rfl
  | singleQuoted hquote =>
    refine renders_quoted rfl (SingleText.isQuoting hd) fun column d hle hlt hchar => ?_
    rw [hone column d hle hlt hchar, hquote]
    rfl

theorem HandsOver.renders (h : HandsOver cursor c mode faults t next)
    (hd : mode.Describes cursor) : Renders mode cursor t := by
  have hplain : ∀ {p radix}, (Mode.number p radix).Describes cursor →
      Renders (.number p radix) cursor (p.token cursor cursor.position cursor.position) := by
    intro p radix hd
    obtain ⟨hcategory, hlexeme⟩ := Pending.token_of_isLiteral cursor
      (.inl (NumberText.isNumber hd)) cursor.position cursor.position
    refine renders_number hd hcategory hlexeme (Pending.start_token _ _ _ _)
      fun column d hle hlt => ?_
    rw [Pending.stop_token] at hlt
    omega
  cases h with
  | fraction | repetend | pointless => exact hplain hd
  | secondPoint => exact renders_closedNumber hd

theorem Finishes.renders (h : Finishes cursor mode faults t) (hd : mode.Describes cursor)
    (hend : cursor.position = cursor.size) : Renders mode cursor t := by
  have hnone : ∀ {P : Char → Prop} column d, cursor.position ≤ column →
      column < cursor.position → cursor.charAt? column = some d → P d := by
    intro P column d hle hlt
    omega
  cases h <;> rw [← hend]
  case whitespace => exact renders_blank hd
  case symbol hfirst hs => exact renders_held hd hs hfirst
  case word =>
    exact renders_word hd (WordText.category hd) (WordText.offset hd) rfl (Nat.le_refl _) hnone
  case number => exact renders_closedNumber hd
  case doubleQuoted => exact renders_quoted rfl (DoubleText.isQuoting hd) hnone
  case singleQuoted => exact renders_quoted rfl (SingleText.isQuoting hd) hnone

end

end Scan
end LineLexer
