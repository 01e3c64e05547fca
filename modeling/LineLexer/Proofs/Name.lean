import LineLexer.Proofs.Diagnosis
import LineLexer.Proofs.Kind
import LineLexer.Proofs.Passage

/-!
# The grammar of names

A `Name` is a letter, perhaps behind a sign, with letters, digits and signs behind it and perhaps a
question mark at the end. A line is read as one name or keyword, without a fault, exactly if it
is a name, and the token is then that of the grammar: `tokenize_name`.

From a name to its token, the scan is followed along the text. From the token to the name, two
facts about tokens in general come together: what a word covers has the form of a name
(`scan_words`), and a character that does not belong there would have been found fault with.

* `Name`, `Name.token`, `Name.Reads`: the grammar;
* `scan_name`: the scan of a name;
* `WordForm`, `scan_words`: what a word covers.
-/

namespace LineLexer

/-! ## The grammar -/

/-- The classes of the characters behind the first letter of a name. -/
def nameClasses : List CharClass :=
  [.sign, .digit, .capitalLetter, .smallLetter]

/-- A name, by the characters it consists of. -/
structure Name where
  /-- A sign in front of the first letter. -/
  sign? : Option Char
  /-- The first letter. -/
  letter : Char
  /-- The characters behind the first letter. -/
  rest : List Char
  /-- There is a question mark at the end. -/
  query : Bool
  isSign : ∀ c ∈ sign?, CharClass.isSign c = true
  isLetter : (CharClass.of letter).isLetterClass = true
  isRest : ∀ c ∈ rest, CharClass.of c ∈ nameClasses

namespace Name

/-- The name without the question mark. -/
def stem (name : Name) : List Char :=
  name.sign?.toList ++ name.letter :: name.rest

/-- The characters of the name. -/
def text (name : Name) : List Char :=
  name.stem ++ if name.query then ['?'] else []

/-- The category of the name by its start. -/
def proposed (name : Name) : Category :=
  if CharClass.of name.letter = .capitalLetter then .capitalizedName
  else if name.sign? = some '-' then .label
  else .uncapitalizedName

/-- The category of the name, unless it is a keyword. -/
def category (name : Name) : Category :=
  if name.query then .predicate else name.proposed

/-- The token of the name at the start of a line. -/
def token (name : Name) : Token :=
  match Keyword.ofSpelling? (String.ofList name.text) with
  | some k => ⟨.keyword, .keyword k, 0, name.text.length, false⟩
  | none => ⟨name.category, .text (String.ofList name.text), 0, name.text.length, false⟩

/-- What a name at the start of a line is read as: the keyword that is spelled so or, if there is
none, the name itself. -/
inductive Reads (name : Name) : Token → Prop
  | keyword {k : Keyword} (spelled : k.spelling = String.ofList name.text) :
      Reads name ⟨.keyword, .keyword k, 0, name.text.length, false⟩
  | unreserved (spelled : ∀ k : Keyword, k.spelling ≠ String.ofList name.text) :
      Reads name ⟨name.category, .text (String.ofList name.text), 0, name.text.length, false⟩

/-- Looking the name up among the keywords finds the one that is spelled so. -/
theorem reads_token (name : Name) : name.Reads name.token := by
  unfold token
  split
  · next k h => exact .keyword (Keyword.ofSpelling?_eq_some_iff.1 h)
  · next h => exact .unreserved (Keyword.ofSpelling?_eq_none_iff.1 h)

theorem letter_mem (name : Name) : name.letter ∈ name.text := by
  simp [text, stem]

theorem isName_category (name : Name) : name.category.isName = true := by
  unfold category proposed
  (repeat' split) <;> rfl

/-- The token is a word, reserved or not. -/
theorem kind_token (name : Name) : name.token.category.kind = .word := by
  unfold token
  split
  · rfl
  · exact Category.kind_eq_word_iff.2 (.inl name.isName_category)

end Name

namespace Scan

section
variable {name : Name} {cursor : Cursor}

/-! ## From a name to its token -/

/-- A word that is a name is put out as its token. -/
theorem token_of_name {p : Pending} {stop : Nat} (hp : p = ⟨name.category, 0, 0, false⟩)
    (hslice : cursor.slice 0 stop = name.text) (hstop : stop = name.text.length) :
    p.token cursor stop stop = name.token := by
  have hname := name.isName_category
  have hne : name.category ≠ .whitespace := by
    intro hblank
    rw [hblank] at hname
    exact nomatch hname
  have hreservable : name.category.isReservable = true := by
    rw [Category.isReservable, hname]
    rfl
  rw [hp, Pending.token, if_neg hne, Nat.add_zero, hslice]
  simp only [Token.tag, Token.classify, hreservable, if_true,
    Reserved.ofSpelling?_of_mem name.letter_mem name.isLetter, Name.token, hstop]
  cases Keyword.ofSpelling? (String.ofList name.text) <;> rfl

/-- A sign alone is a symbol that longer ones start with. -/
theorem exists_symbol_of_isSign {c : Char} (h : CharClass.isSign c = true) :
    ∃ s, Symbol.ofChar? c = some s ∧ s.unambiguous = false := by
  rcases CharClass.isSign_iff.1 h with rfl | rfl
  · exact ⟨.adding, rfl, rfl⟩
  · exact ⟨.reducing, rfl, rfl⟩

/-- The scan of the start of a name, which decides on its category. -/
theorem passes_letter (name : Name) (after : List Char) :
    Passes (name.sign?.toList ++ [name.letter]) after (.word ⟨name.proposed, 0, 0, false⟩)
      .empty := by
  cases hsign : name.sign? with
  | none =>
    have hletter := name.isLetter
    cases hclass : CharClass.of name.letter <;> rw [hclass] at hletter
    case capitalLetter =>
      rw [Name.proposed, if_pos hclass]
      exact passes_open after (fun start => .word ⟨.capitalizedName, start, 0, false⟩)
        fun _ => .capitalized hclass
    case smallLetter =>
      rw [Name.proposed, if_neg (by rw [hclass]; decide), if_neg (by rw [hsign]; decide)]
      exact passes_open after (fun start => .word ⟨.uncapitalizedName, start, 0, false⟩)
        fun _ => .uncapitalized hclass
    all_goals exact nomatch hletter
  | some c =>
    -- the sign is held back as a symbol until the letter is seen
    have hc : CharClass.isSign c = true := name.isSign c hsign
    obtain ⟨s, hs, hambiguous⟩ := exists_symbol_of_isSign hc
    have hstart : Passes [] (c :: name.letter :: after) (.between true) .empty := .start _
    have hproposed : signedName c (CharClass.of name.letter) = name.proposed := by
      simp only [signedName, Name.proposed, hsign, Option.some.injEq]
    rw [← hproposed]
    exact (hstart.hold hs hambiguous).take (s := .empty) fun cursor hbefore _ _ =>
      .resumes (.signed (position_held hbefore).2 hc name.isLetter)

/-- The scan of a name up to its question mark. -/
theorem passes_stem (name : Name) (after : List Char) :
    Passes name.stem after (.word ⟨name.proposed, 0, 0, false⟩) .empty := by
  have hrun := (passes_letter name (name.rest ++ after)).run
    fun c hc _ => .word (name.isRest c hc)
  rwa [List.append_assoc] at hrun

/-- A name is put out as its token. -/
theorem scan_name (name : Name) : scan name.text = .token name.token := by
  cases hquery : name.query with
  | true =>
    -- the question mark is taken into the token, and recasts it
    have htext : name.text = name.stem ++ ['?'] := by rw [Name.text, hquery, if_pos rfl]
    have hclose := (passes_stem name ['?']).take (s := .token name.token)
      fun cursor hbefore hafter _ => by
        have hposition : cursor.position + 1 = name.text.length := by
          rw [htext, List.length_append, ← hbefore, cursor.length_before]
          rfl
        have hslice : cursor.slice 0 (cursor.position + 1) = name.text := by
          rw [cursor.slice_position_succ (Nat.zero_le _) (by rw [cursor.current?_eq, hafter]; rfl),
            hbefore, htext]
          rfl
        have hcategory : name.category = .predicate := by rw [Name.category, hquery, if_pos rfl]
        rw [← token_of_name rfl hslice hposition, hcategory]
        exact .closes (.predicate rfl)
    rw [htext]
    exact hclose.scan_eq (s := .empty) fun _ _ _ _ => rfl
  | false =>
    -- the end of the line closes the word
    have htext : name.text = name.stem := by
      rw [Name.text, hquery, if_neg Bool.false_ne_true, List.append_nil]
    rw [htext]
    refine (passes_stem name []).scan_eq (s := .token name.token) fun cursor hbefore hafter _ => ?_
    have hend := Cursor.position_eq_of_after hafter
    have hslice : cursor.slice 0 cursor.size = name.text := by
      rw [← hend, cursor.slice_position, hbefore, htext]
      rfl
    have hsize : cursor.size = name.text.length := by
      rw [htext, ← hend, ← hbefore, cursor.length_before]
    have hcategory : name.category = name.proposed := by
      rw [Name.category, hquery, if_neg Bool.false_ne_true]
    rw [← token_of_name rfl hslice hsize, hcategory]
    rfl

end

/-! ## From the token to the name -/

/-- What a word covers: the form of a name, but perhaps with characters that it may not have. -/
def WordForm (text : List Char) : Prop :=
  ∃ sign letter rest query, text = sign ++ letter :: rest ++ query ∧
    (sign = [] ∨ ∃ c, sign = [c] ∧ CharClass.isSign c = true) ∧
    (CharClass.of letter).isLetterClass = true ∧
    (∀ c ∈ rest, continuesWord (CharClass.of c) = true) ∧ (query = [] ∨ query = ['?'])

section
variable {code text query : List Char} {cursor : Cursor} {c : Char} {mode next : Mode}
  {faults : List Fault} {t : Token} {p : Pending} {n : Nat}

theorem WordText.wordForm (h : WordText p text) (hquery : query = [] ∨ query = ['?']) :
    WordForm (text ++ query) := by
  obtain ⟨sign, letter, rest, rfl, hsign, hletter, hrest⟩ := h.shape
  exact ⟨sign, letter, rest, query, rfl, hsign, hletter, hrest, hquery⟩

theorem Closes.wordForm (h : Closes cursor c mode faults t next n)
    (hcode : cursor.chars = code.toArray) (hd : mode.Describes cursor)
    (hc : cursor.current? = some c) (hkind : t.category.kind = .word) : WordForm (t.raw code) := by
  rcases h.kind_eq hd with hmode | ⟨-, start, rfl⟩
  · rw [hkind] at hmode
    rw [raw_eq_slice hcode]
    cases h with
    | @predicate p h =>
      have hslice : cursor.slice p.start (cursor.position + 1) = p.text cursor ++ ['?'] := by
        rw [Cursor.slice_succ (Nat.le_of_lt (hd.start_lt rfl)) hc, h]
        rfl
      rw [Pending.start_token, Pending.stop_token]
      exact hslice ▸ WordText.wordForm hd (.inr rfl)
    | word =>
      rw [Pending.start_token, Pending.stop_token, ← List.append_nil (cursor.slice _ _)]
      exact WordText.wordForm hd (.inl rfl)
    | _ => exact nomatch hmode
  · exact nomatch hkind

theorem Finishes.wordForm (h : Finishes cursor mode faults t) (hcode : cursor.chars = code.toArray)
    (hd : mode.Describes cursor) (hend : cursor.position = cursor.size)
    (hkind : t.category.kind = .word) : WordForm (t.raw code) := by
  have hmode := h.kind_eq hd hend
  rw [hkind] at hmode
  cases h with
  | word =>
    rw [raw_eq_slice hcode, Pending.start_token, Pending.stop_token, ← hend,
      ← List.append_nil (cursor.slice _ _)]
    exact WordText.wordForm hd (.inl rfl)
  | _ => exact nomatch hmode

/-- Every word covers a text of the form of a name. -/
theorem scan_words (code : List Char) :
    ∀ t ∈ (scan code).tokens, t.category.kind = .word → WordForm (t.raw code) := by
  apply forall_mem_scan
  case emits =>
    intro mode cursor output c faults t next n _ _ h hkind
    rcases h.kind_eq with h | h <;> exact nomatch hkind.symm.trans h
  case closes => exact fun hreach hc h => h.wordForm hreach.chars hreach.describes hc
  case handsOver =>
    intro mode cursor output c faults t next hreach _ h hkind
    exact nomatch hkind.symm.trans (h.kind_eq hreach.describes).2
  case finishes => exact fun hreach hend h => h.wordForm hreach.chars hreach.describes hend

/-- A token that is alone in its line covers it. -/
theorem span_of_tokens_eq (htokens : (scan code).tokens = [t]) :
    t.start = 0 ∧ t.stop = code.length := by
  have htiles := scan_tiles code
  rw [htokens] at htiles
  exact ⟨htiles.1, htiles.2.2⟩

theorem raw_of_tokens_eq (htokens : (scan code).tokens = [t]) : t.raw code = code := by
  obtain ⟨hstart, hstop⟩ := span_of_tokens_eq htokens
  rw [Token.raw, hstart, hstop, List.take_length, List.drop_zero]

/-- In a word that is the whole line, every character is one that names may have. -/
theorem wordIssue?_eq_none (htokens : (scan code).tokens = [t]) (hfaults : (scan code).faults = [])
    (hkind : t.category.kind = .word) (hc : c ∈ code) : wordIssue? c = none := by
  rcases Category.kind_eq_word_iff.1 hkind with hname | hkeyword
  · obtain ⟨column, hcolumn⟩ := List.mem_iff_getElem?.1 hc
    have hlt : column < code.length := (List.getElem?_eq_some_iff.1 hcolumn).1
    obtain ⟨hstart, hstop⟩ := span_of_tokens_eq htokens
    have hcovers : t.covers column = true := Token.covers_iff.2 (by omega)
    -- the token speaks for the line, which has no fault
    have hmarks := scan_marks code
    rw [hfaults, htokens] at hmarks
    have hnone : diagnosis? code ([] ++ [t]) column = none :=
      Option.map_eq_none_iff.1
        (List.filterMap_eq_nil_iff.1 hmarks.symm column (List.mem_range.2 hlt))
    have hempty : Tiles 0 [] t.start := hstart.symm
    rw [diagnosis?_append_of_covers hempty hcovers, hcolumn, Option.bind_some,
      verdict_of_isName hname] at hnone
    exact hnone
  · have hfaithful := scan_faithful code t (htokens ▸ List.mem_cons_self)
    simp only [Token.Faithful, hkeyword] at hfaithful
    obtain ⟨k, -, hspelling⟩ := hfaithful
    refine wordIssue?_of_mem_keyword (k := k) ?_
    rwa [hspelling, String.toList_ofList, raw_of_tokens_eq htokens]

theorem mem_nameClasses (h : continuesWord (CharClass.of c) = true) (hlegal : wordIssue? c = none) :
    CharClass.of c ∈ nameClasses := by
  unfold wordIssue? at hlegal
  cases hclass : CharClass.of c <;> rw [hclass] at h hlegal <;>
    first | decide | exact absurd h (by decide) | exact absurd hlegal (by decide)

/-- A text of the form of a name, with nothing in it that does not belong there, is a name. -/
theorem WordForm.exists_name (h : WordForm text) (hlegal : ∀ c ∈ text, wordIssue? c = none) :
    ∃ name : Name, name.text = text := by
  obtain ⟨sign, letter, rest, query, rfl, hsign, hletter, hrest, hquery⟩ := h
  have hsign? : ∃ sign? : Option Char, sign?.toList = sign ∧
      ∀ c ∈ sign?, CharClass.isSign c = true := by
    rcases hsign with rfl | ⟨c, rfl, hc⟩
    · exact ⟨none, rfl, nofun⟩
    · exact ⟨some c, rfl, fun d hd => Option.some.inj hd ▸ hc⟩
  have hquery? : ∃ isQuery : Bool, (if isQuery then ['?'] else []) = query := by
    rcases hquery with rfl | rfl
    · exact ⟨false, rfl⟩
    · exact ⟨true, rfl⟩
  obtain ⟨sign?, rfl, hsign?⟩ := hsign?
  obtain ⟨isQuery, rfl⟩ := hquery?
  have hrest' : ∀ c ∈ rest, CharClass.of c ∈ nameClasses := fun c hc =>
    mem_nameClasses (hrest c hc) (hlegal c (by simp [hc]))
  exact ⟨⟨sign?, letter, rest, isQuery, hsign?, hletter, hrest'⟩, rfl⟩

end

end Scan

/-- Exactly the names are read as one name or keyword and nothing else, without a fault, and they
are read as the grammar says: as the keyword that is spelled so, if there is one. -/
theorem tokenize_name (line : Line) :
    ((line.tokenize.2 = [] ∧ ∃ t, line.tokenize.1 = [t] ∧
        (t.category.isName = true ∨ t.category = .keyword)) ↔
      ∃ name : Name, name.text = line.code.toList) ∧
      ∀ name : Name, name.text = line.code.toList →
        line.tokenize = ([name.token], []) ∧ name.Reads name.token := by
  have hname : ∀ name : Name, name.text = line.code.toList →
      line.tokenize = ([name.token], []) := by
    intro name htext
    refine Line.tokenize_of_scan ?_
    rw [← htext]
    exact Scan.scan_name name
  refine ⟨⟨?_, ?_⟩, fun name htext => ⟨hname name htext, name.reads_token⟩⟩
  · rintro ⟨herrors, t, htokens, hword⟩
    have hfaults := Line.tokenize_snd_eq_nil_iff.1 herrors
    have hkind := Category.kind_eq_word_iff.2 hword
    have hmem : t ∈ line.tokenize.1 := by rw [htokens]; exact List.mem_cons_self
    have hform := Scan.scan_words line.code.toList t hmem hkind
    rw [Scan.raw_of_tokens_eq htokens] at hform
    exact hform.exists_name fun c hc => Scan.wordIssue?_eq_none htokens hfaults hkind hc
  · rintro ⟨name, htext⟩
    rw [hname name htext]
    exact ⟨rfl, name.token, rfl, Category.kind_eq_word_iff.1 name.kind_token⟩

/-- A question mark may belong to a keyword. -/
example : (⟨none, 'i', ['n'], true, nofun, rfl, List.forall_mem_singleton.2 (by decide)⟩ :
    Name).token = ⟨.keyword, .keyword .inQuery, 0, 3, false⟩ := rfl

end LineLexer
