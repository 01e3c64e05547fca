import LineLexer.Proofs.CharClass
import LineLexer.Proofs.Cursor
import LineLexer.Scan.Run

/-!
# What a mode says about the text

A mode carries a token under construction. `Mode.Describes` says, mode by mode, what the
characters of that token look like so far: it is the invariant of the scan, and holds
in every state that the scan of a line reaches. The shape of a token that has been
closed is read off it.

* `BlankText`, `HeldText`, `WordText`, `NumberText`, `DoubleText`, `SingleText`: the text of
  a token under construction, one predicate for each mode that has one;
* `Mode.Describes`: the invariant;
* `Mode.Describes.start_lt`: a token under construction is never empty.
-/

namespace LineLexer.Scan

/-- The characters of a pending token so far. -/
def Pending.text (pending : Pending) (cursor : Cursor) : List Char :=
  cursor.slice pending.start cursor.position

/-- A letter or a digit: what a part of a number is made of. -/
def IsAlphanumeric (c : Char) : Prop :=
  CharClass.of c = .digit ∨ (CharClass.of c).isLetterClass = true

/-- The classes that go on with a word, some of them with a fault. -/
def continuesWord : CharClass → Bool
  | .sign | .digit | .capitalLetter | .smallLetter | .punctuation | .other => true
  | _ => false

/-! ## Texts of tokens under construction -/

/-- A run of spaces and tabs. -/
structure BlankText (p : Pending) (text : List Char) : Prop where
  category : p.category = .whitespace
  nonempty : text ≠ []
  blank : ∀ c ∈ text, c = ' ' ∨ c = '\t'

/-- One character, a symbol that longer ones start with. -/
structure HeldText (p : Pending) (text : List Char) : Prop where
  opened : p = .opened .punctuation p.start
  held : ∃ first s, text = [first] ∧ Symbol.ofChar? first = some s ∧ s.unambiguous = false

/-- A symbol held back has no mark. -/
theorem HeldText.invalid_eq_false {p : Pending} {text : List Char} (h : HeldText p text) :
    p.invalid = false :=
  congrArg Pending.invalid h.opened

/-- A letter, perhaps behind a sign, and characters that go on with a word. -/
structure WordText (p : Pending) (text : List Char) : Prop where
  category : p.category.isName = true
  offset : p.offset = 0
  shape : ∃ sign letter rest, text = sign ++ letter :: rest ∧
    (sign = [] ∨ ∃ c, sign = [c] ∧ CharClass.isSign c = true) ∧
    (CharClass.of letter).isLetterClass = true ∧
    ∀ c ∈ rest, continuesWord (CharClass.of c) = true

/-- A part of a number: what leads it in depends on its category, digits and letters follow. -/
inductive NumberText (p : Pending) : Radix → List Char → Prop
  | integer {first : Char} {rest : List Char} (category : p.category = .integer)
      (offset : p.offset = 0) (digit : CharClass.of first = .digit)
      (digits : ∀ c ∈ rest, IsAlphanumeric c) : NumberText p .decimal (first :: rest)
  | binary {mark : Char} {rest : List Char} (category : p.category = .binaryInteger)
      (offset : p.offset = 2) (marked : CharClass.isBinaryMark mark = true)
      (digits : ∀ c ∈ rest, IsAlphanumeric c) : NumberText p .binary ('0' :: mark :: rest)
  | hexadecimal {mark : Char} {rest : List Char} (category : p.category = .hexadecimalInteger)
      (offset : p.offset = 2) (marked : CharClass.isHexMark mark = true)
      (digits : ∀ c ∈ rest, IsAlphanumeric c) : NumberText p .hexadecimal ('0' :: mark :: rest)
  | fraction {radix : Radix} {rest : List Char} (category : p.category = .fraction)
      (offset : p.offset = 1) (digits : ∀ c ∈ rest, IsAlphanumeric c) :
      NumberText p radix ('.' :: rest)
  | repetend {radix : Radix} {rest : List Char} (category : p.category = .repetend)
      (offset : p.offset = 1) (digits : ∀ c ∈ rest, IsAlphanumeric c) :
      NumberText p radix ('(' :: rest)

/-- A double quote and what stands behind it. -/
structure DoubleText (p : Pending) (text : List Char) : Prop where
  category : p.category = .string
  offset : p.offset = 1
  shape : ∃ content, text = '"' :: content

/-- The category that a letter in front of a single quote announces. -/
def MarkedCategory (mark : Char) (category : Category) : Prop :=
  CharClass.isBinaryMark mark = true ∧ category = .binary ∨
  CharClass.isHexMark mark = true ∧ category = .hex ∨
  (CharClass.of mark).isLetterClass = true ∧ category = .rawString

/-- A single quote, perhaps behind a mark, and what stands behind it. -/
inductive SingleText (p : Pending) : List Char → Prop
  | plain {content : List Char} (category : p.category = .rawString) (offset : p.offset = 1) :
      SingleText p ('\'' :: content)
  | marked {mark : Char} {content : List Char} (category : MarkedCategory mark p.category)
      (offset : p.offset = 2) : SingleText p (mark :: '\'' :: content)

/-! ## The invariant -/

/-- What a mode says about the text up to the cursor. -/
def Mode.Describes (cursor : Cursor) : Mode → Prop
  | .demarcated => True
  | .undemarcated => 0 < cursor.position
  | .whitespace p => BlankText p (p.text cursor)
  | .symbol p => HeldText p (p.text cursor)
  | .word p => WordText p (p.text cursor)
  | .number p radix => NumberText p radix (p.text cursor)
  | .doubleQuoted p => DoubleText p (p.text cursor)
  | .singleQuoted p => SingleText p (p.text cursor)
  | .documentation => cursor.position = cursor.size

theorem Pending.length_text (p : Pending) (cursor : Cursor) :
    (p.text cursor).length = cursor.position - p.start :=
  Cursor.length_slice cursor.position_le_size

/-- A pending token with characters starts before the cursor. -/
theorem Pending.start_lt_of_text_ne_nil {p : Pending} {cursor : Cursor} (h : p.text cursor ≠ []) :
    p.start < cursor.position := by
  have hpos := List.length_pos_iff.2 h
  rw [p.length_text] at hpos
  omega

theorem NumberText.ne_nil {p : Pending} {radix : Radix} {text : List Char}
    (h : NumberText p radix text) : text ≠ [] := by
  cases h <;> simp

/-- Only a part behind a point or a parenthesis has something else in it than digits and letters. -/
theorem NumberText.alphanumeric_or_lead {p : Pending} {radix : Radix} {text : List Char} {c : Char}
    (h : NumberText p radix text) (hc : c ∈ text) :
    IsAlphanumeric c ∨ c = '.' ∨ c = '(' := by
  cases h with
  | integer _ _ hdigit hrest =>
    rcases List.mem_cons.1 hc with rfl | hc
    · exact .inl (.inl hdigit)
    · exact .inl (hrest c hc)
  | binary _ _ hmark hrest =>
    simp only [List.mem_cons] at hc
    rcases hc with rfl | rfl | hc
    · exact .inl (.inl rfl)
    · exact .inl (.inr (CharClass.isLetterClass_of_isBinaryMark hmark))
    · exact .inl (hrest c hc)
  | hexadecimal _ _ hmark hrest =>
    simp only [List.mem_cons] at hc
    rcases hc with rfl | rfl | hc
    · exact .inl (.inl rfl)
    · exact .inl (.inr (CharClass.isLetterClass_of_isHexMark hmark))
    · exact .inl (hrest c hc)
  | fraction _ _ hrest =>
    rcases List.mem_cons.1 hc with rfl | hc
    · exact .inr (.inl rfl)
    · exact .inl (hrest c hc)
  | repetend _ _ hrest =>
    rcases List.mem_cons.1 hc with rfl | hc
    · exact .inr (.inr rfl)
    · exact .inl (hrest c hc)

theorem SingleText.ne_nil {p : Pending} {text : List Char} (h : SingleText p text) : text ≠ [] := by
  cases h <;> simp

/-- A token under construction has at least one character. -/
theorem Mode.Describes.start_lt {cursor : Cursor} {mode : Mode} {p : Pending}
    (h : mode.Describes cursor) (hp : mode.pending? = some p) : p.start < cursor.position := by
  apply Pending.start_lt_of_text_ne_nil
  cases mode <;> simp only [Mode.pending?, Option.some.injEq, reduceCtorEq] at hp <;> subst hp
  case whitespace => exact h.nonempty
  case symbol =>
    obtain ⟨first, s, htext, -⟩ := h.held
    rw [htext]
    simp
  case word =>
    obtain ⟨sign, letter, rest, htext, -⟩ := h.shape
    rw [htext]
    simp
  case number => exact NumberText.ne_nil h
  case doubleQuoted =>
    obtain ⟨content, htext⟩ := h.shape
    rw [htext]
    simp
  case singleQuoted => exact SingleText.ne_nil h

/-- Documentation ends the line, so that no character is left for a transition. -/
theorem Mode.Describes.ne_documentation {cursor : Cursor} {mode : Mode} {c : Char}
    (h : mode.Describes cursor) (hc : cursor.current? = some c) : mode ≠ .documentation := by
  rintro rfl
  have hend : cursor.position = cursor.size := h
  have hlt := Cursor.position_lt_of_current? hc
  omega

theorem NumberText.offset_le_length {p : Pending} {radix : Radix} {text : List Char}
    (h : NumberText p radix text) : p.offset ≤ text.length := by
  cases h <;> simp only [*, List.length_cons] <;> omega

theorem SingleText.offset_le_length {p : Pending} {text : List Char} (h : SingleText p text) :
    p.offset ≤ text.length := by
  cases h <;> simp only [*, List.length_cons] <;> omega

/-- What stands in front of a lexeme has been consumed. -/
theorem Mode.Describes.offset_le_length {mode : Mode} {cursor : Cursor} {p : Pending}
    (h : mode.Describes cursor) (hp : mode.pending? = some p) (hcat : p.category ≠ .whitespace) :
    p.offset ≤ (p.text cursor).length := by
  cases mode <;> simp only [Mode.pending?, Option.some.injEq, reduceCtorEq] at hp <;> subst hp
  case whitespace => exact absurd h.category hcat
  case symbol =>
    rw [HeldText.opened h]
    exact Nat.zero_le _
  case word =>
    rw [WordText.offset h]
    exact Nat.zero_le _
  case number => exact NumberText.offset_le_length h
  case doubleQuoted =>
    obtain ⟨content, hcontent⟩ := DoubleText.shape h
    rw [DoubleText.offset h, hcontent]
    exact Nat.succ_le_succ (Nat.zero_le _)
  case singleQuoted => exact SingleText.offset_le_length h

/-! ## How the text of a pending token grows -/

/-- The current character is the next one of the text. -/
theorem Pending.text_advance_one {p : Pending} {cursor : Cursor} {c : Char}
    (h : p.start ≤ cursor.position) (hc : cursor.current? = some c) :
    p.text (cursor.advance 1) = p.text cursor ++ [c] := by
  rw [text, Cursor.slice_advance, Cursor.position_advance_one hc, Cursor.slice_succ h hc]
  rfl

/-- A token opened at the cursor has the current character as its text. -/
theorem Pending.text_opened {p : Pending} {cursor : Cursor} {c : Char}
    (h : p.start = cursor.position) (hc : cursor.current? = some c) :
    p.text (cursor.advance 1) = [c] := by
  rw [text_advance_one (Nat.le_of_eq h) hc, text, h, Cursor.slice_self, List.nil_append]

/-- Moving on adds to the text. -/
theorem Pending.exists_text_advance {p : Pending} {cursor : Cursor} (n : Nat)
    (h : p.start ≤ cursor.position) :
    ∃ more, p.text (cursor.advance n) = p.text cursor ++ more := by
  have hle := Cursor.position_le_position_advance cursor n
  exact ⟨cursor.slice cursor.position (cursor.advance n).position, (Cursor.slice_append h hle).symm⟩

/-- A token that is one character wide has that character as its text. -/
theorem Pending.text_of_width_one {p : Pending} {cursor : Cursor} {c : Char}
    (h : p.width cursor.position = 1) (hc : cursor.charAt? p.start = some c) :
    p.text cursor = [c] := by
  have hpos : cursor.position = p.start + 1 := by
    unfold width at h
    omega
  rw [text, hpos, Cursor.slice_singleton hc]

/-- The text of a pending token starts with the character at its first column. -/
theorem Pending.charAt?_start {p : Pending} {cursor : Cursor} (h : p.start < cursor.position) :
    cursor.charAt? p.start = (p.text cursor).head? := by
  rw [text, List.head?_eq_getElem?, Cursor.getElem?_slice h, Nat.add_zero]

/-- The symbol held back is in the line and in the registry. -/
theorem Mode.Describes.exists_held {cursor : Cursor} {p : Pending}
    (h : (Mode.symbol p).Describes cursor) :
    ∃ first s, cursor.charAt? p.start = some first ∧ p.text cursor = [first] ∧
      Symbol.ofChar? first = some s ∧ s.unambiguous = false := by
  obtain ⟨first, s, htext, hs, hambiguous⟩ := HeldText.held h
  refine ⟨first, s, ?_, htext, hs, hambiguous⟩
  rw [Pending.charAt?_start (h.start_lt rfl), htext, List.head?_cons]

/-- A symbol held back is the text of its pending token. -/
theorem Mode.Describes.text_symbol {cursor : Cursor} {p : Pending} {first : Char}
    (h : (Mode.symbol p).Describes cursor) (hfirst : cursor.charAt? p.start = some first) :
    p.text cursor = [first] := by
  obtain ⟨d, s, hd, htext, -, -⟩ := h.exists_held
  rw [htext, Option.some.inj (hd.symm.trans hfirst)]

end LineLexer.Scan
