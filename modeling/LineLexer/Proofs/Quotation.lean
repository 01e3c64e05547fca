import LineLexer.Proofs.Passage

/-!
# Round trip of quoted literals

Any text can be written between single quotes, with each single quote in it doubled, and a text in
which each double quote stands behind a backslash can be written between double quotes.
`QuotedLiteral` is a content with a way to write it; the scan reads its text as one token, whatever
follows, and the content can be had back from the lexeme: `tokenize_quoted`.

* `doubled`, `undoubled`: single quotes and what stands for them between single quotes;
* `Escaped`: a text that can stand between double quotes;
* `QuotedLiteral`: a content and a way to write it, with its text and its token;
* `Passes.single`, `Passes.double`: the scan of what is written between the quotes;
* `passes_quoted`: the scan of a literal.
-/

namespace LineLexer

/-! ## Contents -/

/-- A text with each single quote doubled. -/
def doubled : List Char → List Char
  | [] => []
  | c :: text => if c = '\'' then '\'' :: '\'' :: doubled text else c :: doubled text

/-- A text with each pair of single quotes taken for one. -/
def undoubled : List Char → List Char
  | '\'' :: '\'' :: text => '\'' :: undoubled text
  | c :: text => c :: undoubled text
  | [] => []

theorem undoubled_cons {c : Char} (h : c ≠ '\'') (text : List Char) :
    undoubled (c :: text) = c :: undoubled text := by
  rw [undoubled]
  exact fun _ hc _ => h hc

theorem undoubled_doubled (text : List Char) : undoubled (doubled text) = text := by
  induction text with
  | nil => rfl
  | cons c text ih =>
    rw [doubled]
    split
    · next h => rw [undoubled, ih, h]
    · next h => rw [undoubled_cons h, ih]

/-- A text in which double quotes stand behind backslashes, and that has no backslash at its end. -/
structure Escaped (text : List Char) : Prop where
  quote : ∀ front back, text = front ++ '"' :: back → front.getLast? = some '\\'
  last : text.getLast? ≠ some '\\'

/-- The closing quote does not stand behind a backslash, even if there is nothing in between. -/
theorem Escaped.getLast?_ne {text : List Char} (h : Escaped text) :
    (['"'] ++ text).getLast? ≠ some '\\' := by
  have hlast := h.last
  rw [List.getLast?_append]
  cases htext : text.getLast? with
  | none => decide
  | some c => rwa [htext] at hlast

/-! ## Literals -/

/-- What may stand in front of the opening single quote. -/
inductive QuoteMark where
  | none
  | smallB
  | capitalB
  | smallX
  | capitalX
deriving DecidableEq, Repr

/-- The characters of the mark. -/
def QuoteMark.chars : QuoteMark → List Char
  | none => []
  | smallB => ['b']
  | capitalB => ['B']
  | smallX => ['x']
  | capitalX => ['X']

/-- The category that the mark announces. -/
def QuoteMark.category : QuoteMark → Category
  | none => .rawString
  | smallB | capitalB => .binary
  | smallX | capitalX => .hex

/-- A content and a way to write it as a quoted literal. -/
inductive QuotedLiteral where
  | single (mark : QuoteMark) (content : List Char)
  | double (content : List Char) (escaped : Escaped content)

namespace QuotedLiteral

/-- The content. -/
def content : QuotedLiteral → List Char
  | single _ content | double content _ => content

/-- The content as it is written between the quotes. -/
def written : QuotedLiteral → List Char
  | single _ content => doubled content
  | double content _ => content

/-- The characters of the literal. -/
def text : QuotedLiteral → List Char
  | single mark content => mark.chars ++ '\'' :: doubled content ++ ['\'']
  | double content _ => '"' :: content ++ ['"']

/-- The category of the literal. -/
def category : QuotedLiteral → Category
  | single mark _ => mark.category
  | double _ _ => .string

/-- The token of the literal at the start of a line. -/
def token (literal : QuotedLiteral) : Token :=
  ⟨literal.category, .text (String.ofList literal.written), 0, literal.text.length, false⟩

/-- The literal ends in front of a text: the closing quote is not taken for one of a pair. -/
def EndsBefore (suffix : List Char) : QuotedLiteral → Prop
  | single _ _ => suffix.head? ≠ some '\''
  | double _ _ => True

end QuotedLiteral

/-- The content of a quoted literal. -/
def Token.content? (t : Token) : Option (List Char) :=
  t.lexeme.text?.map fun text =>
    if t.category = .string then text.toList else undoubled text.toList

theorem QuotedLiteral.content?_token (literal : QuotedLiteral) :
    literal.token.content? = some literal.content := by
  cases literal with
  | single mark content =>
    have hcategory : mark.category ≠ .string := by cases mark <;> decide
    show some (if mark.category = .string then _ else _) = _
    rw [if_neg hcategory, written, String.toList_ofList, undoubled_doubled]
    rfl
  | double content escaped =>
    show some (String.ofList content).toList = some content
    rw [String.toList_ofList]

namespace Scan

section
variable {before after content suffix : List Char} {p : Pending} {output : Output}

/-! ## Single quotes -/

/-- Between single quotes, quotes are passed over in pairs. -/
theorem Passes.single (h : Passes before (doubled content ++ after) (.singleQuoted p) output) :
    Passes (before ++ doubled content) after (.singleQuoted p) output := by
  induction content generalizing before with
  | nil => rwa [doubled, List.append_nil]
  | cons c content ih =>
    rw [doubled] at h ⊢
    split at h
    · next hquote =>
      rw [if_pos hquote]
      have hpair : Passes (before ++ ['\'', '\'']) (doubled content ++ after) (.singleQuoted p)
          (output ++ .empty) :=
        h.step ['\'', '\''] rfl fun cursor _ hafter _ => by
          refine .resumes (.doubledQuote rfl ?_)
          rw [cursor.peek?_one, hafter]
          rfl
      have hrest := ih (Output.append_empty output ▸ hpair)
      rwa [List.append_assoc] at hrest
    · next hquote =>
      rw [if_neg hquote]
      have htake := h.take fun _ _ _ _ => .resumes (.singleQuoted hquote)
      have hrest := ih (Output.append_empty output ▸ htake)
      rwa [List.append_assoc] at hrest

/-- A single quote with no other one behind it closes the literal. -/
theorem Passes.closeSingle (h : Passes before ('\'' :: suffix) (.singleQuoted p) output)
    (hquoting : p.category.isQuoting = true) (hsuffix : suffix.head? ≠ some '\'') :
    Passes (before ++ ['\'']) suffix .undemarcated
      (output ++ .token (p.literal before (before.length + 1))) :=
  h.take fun cursor hbefore hafter _ => by
    rw [← hbefore, ← Pending.token_eq (.inr hquoting), cursor.length_before]
    refine .closes (.singleQuoted rfl ?_)
    rwa [cursor.peek?_one, hafter]

/-- A letter in front of a single quote is the mark of the literal. -/
theorem Passes.marked {c : Char} {category : Category}
    (h : Passes [c] ('\'' :: after) (.word p) output) (hstart : p.start = 0)
    (hvalid : p.invalid = false) (hmark : CharClass.isBinaryMark c = true ∧ category = .binary ∨
      CharClass.isHexMark c = true ∧ category = .hex) :
    Passes [c, '\''] after (.singleQuoted ⟨category, 0, 2, false⟩) output := by
  have htake : Passes [c, '\''] after (.singleQuoted ⟨category, 0, 2, false⟩)
      (output ++ .empty) := h.take fun cursor hbefore _ _ => by
    have hposition : cursor.position = 1 := by
      rw [← cursor.length_before, hbefore]
      rfl
    have hwidth : p.width cursor.position = 1 := by rw [Pending.width, hposition, hstart]
    have hchar : cursor.charAt? p.start = some c := by
      rw [cursor.charAt?_of_lt (by omega), hbefore, hstart]
      rfl
    rw [← hstart, ← hvalid]
    rcases hmark with ⟨hmark, rfl⟩ | ⟨hmark, rfl⟩
    · exact .resumes (.binaryQuoted rfl hwidth hchar hmark)
    · exact .resumes (.hexQuoted rfl hwidth hchar hmark)
  rwa [Output.append_empty] at htake

/-- The start of a single-quoted literal. -/
theorem passes_mark (mark : QuoteMark) (after : List Char) :
    Passes (mark.chars ++ ['\'']) after
      (.singleQuoted ⟨mark.category, 0, mark.chars.length + 1, false⟩) .empty := by
  have hsmall : ∀ {c : Char}, CharClass.of c = .smallLetter →
      Passes [c] ('\'' :: after) (.word ⟨.uncapitalizedName, 0, 0, false⟩) .empty :=
    fun hc => passes_open _ (fun start => .word ⟨.uncapitalizedName, start, 0, false⟩)
      fun _ => .uncapitalized hc
  have hcapital : ∀ {c : Char}, CharClass.of c = .capitalLetter →
      Passes [c] ('\'' :: after) (.word ⟨.capitalizedName, 0, 0, false⟩) .empty :=
    fun hc => passes_open _ (fun start => .word ⟨.capitalizedName, start, 0, false⟩)
      fun _ => .capitalized hc
  cases mark with
  | none =>
    exact passes_open after (fun start => .singleQuoted ⟨.rawString, start, 1, false⟩)
      fun _ => .singleQuoted rfl
  | smallB => exact (hsmall rfl).marked rfl rfl (.inl ⟨rfl, rfl⟩)
  | capitalB => exact (hcapital rfl).marked rfl rfl (.inl ⟨rfl, rfl⟩)
  | smallX => exact (hsmall rfl).marked rfl rfl (.inr ⟨rfl, rfl⟩)
  | capitalX => exact (hcapital rfl).marked rfl rfl (.inr ⟨rfl, rfl⟩)

/-! ## Double quotes -/

/-- Between double quotes, a quote behind a backslash is passed over. -/
theorem Passes.double (h : Passes before (content ++ after) (.doubleQuoted p) output)
    (hquote : ∀ front back, content = front ++ '"' :: back →
      (before ++ front).getLast? = some '\\') :
    Passes (before ++ content) after (.doubleQuoted p) output := by
  induction content generalizing before with
  | nil => rwa [List.append_nil]
  | cons c content ih =>
    -- a quote stands behind what has been passed over so far
    have htake := h.take fun cursor hbefore _ _ => .resumes (.doubleQuoted fun hc => by
      rw [cursor.previous?_eq, hbefore, ← hquote [] content (by rw [hc]; rfl), List.append_nil])
    have hrest := ih (Output.append_empty output ▸ htake) fun front back hcontent => by
      rw [List.append_assoc]
      exact hquote (c :: front) back (congrArg (c :: ·) hcontent)
    rwa [List.append_assoc] at hrest

/-- A double quote that does not stand behind a backslash closes the literal. -/
theorem Passes.closeDouble (h : Passes before ('"' :: suffix) (.doubleQuoted p) output)
    (hquoting : p.category.isQuoting = true) (hlast : before.getLast? ≠ some '\\') :
    Passes (before ++ ['"']) suffix .undemarcated
      (output ++ .token (p.literal before (before.length + 1))) :=
  h.take fun cursor hbefore _ _ => by
    rw [← hbefore, ← Pending.token_eq (.inr hquoting), cursor.length_before]
    refine .closes (.doubleQuoted rfl ?_)
    rwa [cursor.previous?_eq, hbefore]

/-! ## The scan of a literal -/

theorem passes_singleQuoted (mark : QuoteMark) (content : List Char)
    (hsuffix : suffix.head? ≠ some '\'') :
    Passes (QuotedLiteral.single mark content).text suffix .undemarcated
      (.token (QuotedLiteral.single mark content).token) := by
  have hclose := (passes_mark mark (doubled content ++ '\'' :: suffix)).single.closeSingle
    (by cases mark <;> rfl) hsuffix
  have htext : mark.chars ++ ['\''] ++ doubled content ++ ['\''] =
      (QuotedLiteral.single mark content).text := by
    rw [QuotedLiteral.text, List.append_assoc mark.chars]
    rfl
  -- the mark and the opening quote are what the lexeme leaves out
  have htoken : Pending.literal ⟨mark.category, 0, mark.chars.length + 1, false⟩
      (mark.chars ++ ['\''] ++ doubled content)
      ((mark.chars ++ ['\''] ++ doubled content).length + 1) =
        (QuotedLiteral.single mark content).token := by
    rw [Pending.literal, QuotedLiteral.token, ← htext, @List.length_append _ _ ['\''],
      List.drop_left' (by simp)]
    rfl
  rwa [htext, htoken] at hclose

theorem passes_doubleQuoted (escaped : Escaped content) (suffix : List Char) :
    Passes (QuotedLiteral.double content escaped).text suffix .undemarcated
      (.token (QuotedLiteral.double content escaped).token) := by
  have hopen : Passes ['"'] (content ++ '"' :: suffix) (.doubleQuoted ⟨.string, 0, 1, false⟩)
      .empty :=
    passes_open _ (fun start => .doubleQuoted ⟨.string, start, 1, false⟩)
      fun _ => .doubleQuoted rfl
  have hcontent := hopen.double fun front back hquote => by
    rw [List.getLast?_append, escaped.quote front back hquote]
    rfl
  have hclose := hcontent.closeDouble rfl escaped.getLast?_ne
  have htoken : Pending.literal ⟨.string, 0, 1, false⟩ (['"'] ++ content)
      ((['"'] ++ content).length + 1) = (QuotedLiteral.double content escaped).token := by
    rw [Pending.literal, QuotedLiteral.token, QuotedLiteral.text, @List.length_append _ _ ['"']]
    rfl
  rw [htoken] at hclose
  exact hclose

/-- A quoted literal at the start of a line is put out as its token. -/
theorem passes_quoted (literal : QuotedLiteral) (hsuffix : literal.EndsBefore suffix) :
    Passes literal.text suffix .undemarcated (.token literal.token) := by
  cases literal with
  | single mark content => exact passes_singleQuoted mark content hsuffix
  | double content escaped => exact passes_doubleQuoted escaped suffix

end

end Scan

/-- What is written between quotes is read back from the first token of the line, and the literal
alone is read as one valid token. -/
theorem tokenize_quoted (line : Line) (literal : QuotedLiteral) (suffix : List Char)
    (hcode : line.code.toList = literal.text ++ suffix) (hsuffix : literal.EndsBefore suffix) :
    ∃ more, line.tokenize.1 = literal.token :: more ∧
      literal.token.content? = some literal.content ∧
      (suffix = [] → more = [] ∧ line.tokenize.2 = []) := by
  have hpasses := Scan.passes_quoted literal hsuffix
  obtain ⟨more, hscan⟩ := hpasses.exists_scan
  rw [← hcode] at hscan
  refine ⟨more.tokens, congrArg Scan.Output.tokens hscan, literal.content?_token, ?_⟩
  rintro rfl
  have halone : Scan.scan line.code.toList = .token literal.token := by
    rw [hcode, List.append_nil, hpasses.scan_eq fun _ _ _ _ => rfl]
    rfl
  have htokens := congrArg Scan.Output.tokens (hscan.symm.trans halone)
  exact ⟨(List.cons.inj htokens).2, congrArg Prod.snd (Line.tokenize_of_scan halone)⟩

/-- A hexadecimal literal with a quote in it, in front of another literal. -/
theorem tokenize_quoted_hex :
    ∃ more, (⟨1, 0, "x'a''b' 'c'", none⟩ : Line).tokenize.1 =
        ⟨.hex, .text "a''b", 0, 7, false⟩ :: more ∧
      Token.content? ⟨.hex, .text "a''b", 0, 7, false⟩ = some "a'b".toList := by
  obtain ⟨more, htokens, hcontent, -⟩ := tokenize_quoted ⟨1, 0, "x'a''b' 'c'", none⟩
    (.single .smallX "a'b".toList) " 'c'".toList (by decide) (nomatch ·)
  exact ⟨more, htokens, hcontent⟩

end LineLexer
