import LineLexer.Reserved.Symbol
import LineLexer.Text.Blank

/-!
# Character classes

Every character belongs to exactly one lexical class, `CharClass.of`. The case of
a letter is decided by fixed ranges of the Latin, Greek and Cyrillic blocks; in
the extended blocks capitals and small letters alternate, and the capitals have
the even code points. Digits, signs and the marks of the bases of numbers are
plain characters: `isDigit_iff`, `isBinaryMark_iff` and the lemmas next to them say
which.
-/

namespace LineLexer

/-- The lexical class of a character. -/
inductive CharClass where
  | tab
  | space
  | hash
  /-- Plus or minus. -/
  | sign
  | digit
  | capitalLetter
  | smallLetter
  | doubleQuote
  | singleQuote
  /-- A demarcating symbol of one character. -/
  | demarcator
  /-- Any other symbol of one character. -/
  | punctuation
  | other
deriving DecidableEq, Repr

namespace CharClass

open Text (inRange)

/-- A letter of one of the supported scripts. -/
def isLetter (c : Char) : Bool :=
  inRange 0x0041 0x005A c || inRange 0x0061 0x007A c ||  -- Basic Latin
  inRange 0x00C0 0x00D6 c || inRange 0x00D8 0x00FF c ||  -- Latin-1 Supplement
  inRange 0x0100 0x017F c ||                             -- Latin Extended-A
  inRange 0x1E00 0x1EFF c ||                             -- Latin Extended Additional
  inRange 0x0370 0x03A1 c || inRange 0x03A3 0x03A9 c ||  -- Greek
  inRange 0x03B1 0x03C9 c ||
  inRange 0x0400 0x052F c || inRange 0x2DE0 0x2DFF c     -- Cyrillic

/-- A character with an even code point. -/
def isEven (c : Char) : Bool :=
  c.toNat % 2 == 0

/-- A capital letter. -/
def isCapital (c : Char) : Bool :=
  inRange 0x0041 0x005A c || inRange 0x00C0 0x00D6 c || inRange 0x00D8 0x00DE c ||
  (inRange 0x0100 0x0176 c || inRange 0x01F8 0x021E c || inRange 0x0220 0x0232 c ||
    inRange 0x1E00 0x1EF8 c) && isEven c ||
  inRange 0x0391 0x03A1 c || inRange 0x03A3 0x03A9 c || inRange 0x0410 0x042F c ||
  inRange 0x0460 0x04C0 c && isEven c

/-- A small letter. -/
def isSmall (c : Char) : Bool :=
  inRange 0x0061 0x007A c || inRange 0x00DF 0x00F6 c || inRange 0x00F8 0x00FF c ||
  inRange 0x0101 0x0177 c && !isEven c ||
  c.toNat == 0x0178 || c.toNat == 0x023F ||
  (inRange 0x017A 0x021F c || inRange 0x0223 0x0233 c || inRange 0x1E01 0x1EF9 c) && !isEven c ||
  inRange 0x03B1 0x03C9 c || inRange 0x0430 0x044F c ||
  inRange 0x0461 0x04C1 c && !isEven c

/-- A decimal digit. -/
def isDigit (c : Char) : Bool :=
  inRange 0x30 0x39 c

/-- A binary digit. -/
def isBinaryDigit (c : Char) : Bool :=
  c == '0' || c == '1'

/-- A hexadecimal digit of either case. -/
def isHexDigit (c : Char) : Bool :=
  isDigit c || inRange 0x41 0x46 c || inRange 0x61 0x66 c

/-- The letter that announces binary digits. -/
def isBinaryMark (c : Char) : Bool :=
  c == 'b' || c == 'B'

/-- The letter that announces hexadecimal digits. -/
def isHexMark (c : Char) : Bool :=
  c == 'x' || c == 'X'

/-- Plus or minus. -/
def isSign (c : Char) : Bool :=
  c == '+' || c == '-'

/-- A letter, a digit or a sign. -/
def isWordChar (c : Char) : Bool :=
  isLetter c || isDigit c || isSign c

/-! ## The characters of digits, marks and signs -/

section
variable {c : Char}

/-- A range of code points between two characters. -/
theorem inRange_toNat (first last : Char) :
    inRange first.toNat last.toNat c = true ↔ first ≤ c ∧ c ≤ last := by
  rw [inRange, Bool.and_eq_true, decide_eq_true_iff, decide_eq_true_iff]
  rfl

theorem isDigit_iff : isDigit c = true ↔ '0' ≤ c ∧ c ≤ '9' :=
  inRange_toNat '0' '9'

theorem isBinaryDigit_iff : isBinaryDigit c = true ↔ c = '0' ∨ c = '1' := by
  simp only [isBinaryDigit, Bool.or_eq_true, beq_iff_eq]

theorem isHexDigit_iff :
    isHexDigit c = true ↔ '0' ≤ c ∧ c ≤ '9' ∨ 'A' ≤ c ∧ c ≤ 'F' ∨ 'a' ≤ c ∧ c ≤ 'f' := by
  have hcapital : inRange 0x41 0x46 c = true ↔ 'A' ≤ c ∧ c ≤ 'F' := inRange_toNat 'A' 'F'
  have hsmall : inRange 0x61 0x66 c = true ↔ 'a' ≤ c ∧ c ≤ 'f' := inRange_toNat 'a' 'f'
  rw [isHexDigit, Bool.or_eq_true, Bool.or_eq_true, isDigit_iff, hcapital, hsmall, or_assoc]

theorem isBinaryMark_iff : isBinaryMark c = true ↔ c = 'b' ∨ c = 'B' := by
  simp only [isBinaryMark, Bool.or_eq_true, beq_iff_eq]

theorem isHexMark_iff : isHexMark c = true ↔ c = 'x' ∨ c = 'X' := by
  simp only [isHexMark, Bool.or_eq_true, beq_iff_eq]

theorem isSign_iff : isSign c = true ↔ c = '+' ∨ c = '-' := by
  simp only [isSign, Bool.or_eq_true, beq_iff_eq]

end

/-! ## Classes -/

/-- The class of a character. The tests apply in the order in which they stand. -/
def of (c : Char) : CharClass :=
  if c = '\t' then tab
  else if c = ' ' then space
  else if c = '#' then hash
  else if isSign c then sign
  else if isDigit c then digit
  else if isCapital c then capitalLetter
  else if isSmall c then smallLetter
  else if c = '"' then doubleQuote
  else if c = '\'' then singleQuote
  else match Symbol.ofChar? c with
    | some symbol => if symbol.demarcating then demarcator else punctuation
    | none => other

/-- The class of a character that can open or continue a symbol. -/
def isSymbolic : CharClass → Bool
  | sign | demarcator | punctuation => true
  | _ => false

/-- The class of a letter. -/
def isLetterClass : CharClass → Bool
  | capitalLetter | smallLetter => true
  | _ => false

end CharClass

end LineLexer
