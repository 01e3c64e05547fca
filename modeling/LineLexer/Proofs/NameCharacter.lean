import LineLexer.Proofs.Name

/-!
# Characters of names

Two predicates say which characters may stand in a name. A word is gone on with by the class of
the character, so by the tables of capitals and of small letters; `CharClass.isWordChar` goes by
the table of letters. The three tables are independent of each other, and they do not agree:

* `CharClass.isCaseless`: letters that have no case, so that they are illegal in a name;
* `CharClass.isForeign`: characters that have a case, so that names may have them, but that are
  not among the letters.

Each of the differences is exactly one of these two sets: `nameCharacter_iff`. Apart from
them the predicates agree, and no character is both a capital and a small letter.
-/

namespace LineLexer
namespace CharClass

open Text (inRange)

/-! ## Where the tables differ -/

/-- A letter that has no case. In Latin-1 this is the sign of division, and in Latin Extended-A
what the shift of the alternation at the end of the block leaves out. -/
def isCaseless (c : Char) : Bool :=
  c.toNat == 0x00F7 || c.toNat == 0x0179 || inRange 0x017A 0x017E c && isEven c ||
  inRange 0x1EFA 0x1EFF c ||                                -- Latin Extended Additional
  inRange 0x0370 0x0390 c ||                                -- Greek
  inRange 0x0400 0x040F c || inRange 0x0450 0x045F c ||     -- Cyrillic
  inRange 0x04C2 0x052F c || inRange 0x2DE0 0x2DFF c

/-- A character that has a case and is no letter. All of them belong to Latin Extended-B. -/
def isForeign (c : Char) : Bool :=
  inRange 0x0181 0x01F7 c && !isEven c || inRange 0x01F8 0x0220 c || inRange 0x0222 0x0233 c ||
  c.toNat == 0x023F

section
variable {c : Char}

theorem not_isCapital_and_isSmall (c : Char) : ¬(isCapital c = true ∧ isSmall c = true) := by
  grind [isCapital, isSmall, inRange, isEven]

theorem isLetter_of_isCaseless (h : isCaseless c = true) : isLetter c = true := by
  simp only [isCaseless, isLetter, inRange_iff, Bool.or_eq_true, Bool.and_eq_true,
    beq_iff_eq] at h ⊢
  omega

theorem isCapital_of_isCaseless (h : isCaseless c = true) : isCapital c = false := by
  grind [isCaseless, isCapital, inRange, isEven]

theorem isSmall_of_isCaseless (h : isCaseless c = true) : isSmall c = false := by
  apply eq_false_of_ne_true
  simp only [isCaseless, isSmall, inRange_iff, isEven, Bool.or_eq_true, Bool.and_eq_true,
    Bool.not_eq_true', beq_iff_eq, beq_eq_false_iff_ne] at h ⊢
  omega

/-- A letter that is neither a capital nor small has no case. -/
theorem isCaseless_iff :
    isCaseless c = true ↔ isLetter c = true ∧ ¬(isCapital c = true ∨ isSmall c = true) := by
  constructor
  · intro h
    refine ⟨isLetter_of_isCaseless h, ?_⟩
    rw [isCapital_of_isCaseless h, isSmall_of_isCaseless h]
    decide
  · grind [isCaseless, isLetter, isCapital, isSmall, inRange, isEven]

theorem isLetter_of_isForeign (h : isForeign c = true) : isLetter c = false := by
  apply eq_false_of_ne_true
  simp only [isForeign, isLetter, inRange_iff, Bool.or_eq_true, Bool.and_eq_true,
    beq_iff_eq] at h ⊢
  omega

theorem cased_of_isForeign (h : isForeign c = true) : isCapital c = true ∨ isSmall c = true := by
  simp only [isForeign, Bool.or_eq_true] at h
  rcases h with ((hodd | hboth) | hboth) | hlast
  · exact .inr (by grind [isSmall, inRange, isEven])
  · grind [isCapital, isSmall, inRange, isEven]
  · grind [isCapital, isSmall, inRange, isEven]
  · exact .inr (by grind [isSmall])

/-- What has a case without being a letter is foreign. -/
theorem isForeign_iff :
    isForeign c = true ↔ (isCapital c = true ∨ isSmall c = true) ∧ ¬isLetter c = true := by
  constructor
  · intro h
    rw [isLetter_of_isForeign h]
    exact ⟨cased_of_isForeign h, Bool.false_ne_true⟩
  · grind [isForeign, isLetter, isCapital, isSmall, inRange, isEven]

/-! ## Characters that go on with a word -/

/-- The classes of names hold signs, digits and what has a case. -/
theorem mem_nameClasses_iff :
    of c ∈ nameClasses ↔
      isSign c = true ∨ isDigit c = true ∨ isCapital c = true ∨ isSmall c = true := by
  rw [← of_eq_sign_iff, ← of_eq_digit_iff, ← isLetterClass_of_iff]
  cases of c <;> decide

theorem isWordChar_iff :
    isWordChar c = true ↔ isSign c = true ∨ isDigit c = true ∨ isLetter c = true := by
  simp only [isWordChar, Bool.or_eq_true]
  tauto

/-- Where the tables differ, there are neither signs nor digits. -/
theorem not_sign_and_not_digit (h : isCaseless c = true ∨ isForeign c = true) :
    ¬isSign c = true ∧ ¬isDigit c = true := by
  have hbound : 0x41 ≤ c.toNat := by
    simp only [isCaseless, isForeign, inRange_iff, Bool.or_eq_true, Bool.and_eq_true,
      beq_iff_eq] at h
    omega
  constructor
  · intro hsign
    rcases isSign_iff.1 hsign with rfl | rfl <;> exact absurd hbound (by decide)
  · intro hdigit
    have hrange := inRange_iff.1 hdigit
    omega

/-- What only the classes take for a character of names is foreign. -/
theorem isForeign_iff_of_mem :
    isForeign c = true ↔ of c ∈ nameClasses ∧ ¬isWordChar c = true := by
  rw [mem_nameClasses_iff, isWordChar_iff]
  constructor
  · intro h
    obtain ⟨hcased, hletter⟩ := isForeign_iff.1 h
    obtain ⟨hsign, hdigit⟩ := not_sign_and_not_digit (.inr h)
    exact ⟨.inr (.inr hcased), not_or.2 ⟨hsign, not_or.2 ⟨hdigit, hletter⟩⟩⟩
  · rintro ⟨hclass, hword⟩
    obtain ⟨hsign, hother⟩ := not_or.1 hword
    obtain ⟨hdigit, hletter⟩ := not_or.1 hother
    exact isForeign_iff.2 ⟨(hclass.resolve_left hsign).resolve_left hdigit, hletter⟩

/-- What only `isWordChar` takes for a character of names has no case. -/
theorem isCaseless_iff_of_notMem :
    isCaseless c = true ↔ isWordChar c = true ∧ of c ∉ nameClasses := by
  rw [mem_nameClasses_iff, isWordChar_iff]
  constructor
  · intro h
    obtain ⟨hletter, hcased⟩ := isCaseless_iff.1 h
    obtain ⟨hsign, hdigit⟩ := not_sign_and_not_digit (.inl h)
    exact ⟨.inr (.inr hletter), not_or.2 ⟨hsign, not_or.2 ⟨hdigit, hcased⟩⟩⟩
  · rintro ⟨hword, hclass⟩
    obtain ⟨hsign, hother⟩ := not_or.1 hclass
    obtain ⟨hdigit, hcased⟩ := not_or.1 hother
    exact isCaseless_iff.2 ⟨(hword.resolve_left hsign).resolve_left hdigit, hcased⟩

end

end CharClass

namespace Scan

/-- A character goes on with a word, with nothing put out, exactly if its class is one of those of
names. -/
theorem step_word_iff (cursor : Cursor) (p : Pending) (c : Char) :
    step (.word p) cursor c = .next (.word p) .empty ↔ CharClass.of c ∈ nameClasses := by
  constructor
  · intro h
    have hmode : (step (.word p) cursor c).mode = .word p := congrArg Step.mode h
    have hfaults : (step (.word p) cursor c).output.faults = [] :=
      congrArg (·.output.faults) h
    simp only [step, resumeWord] at hmode hfaults
    cases hclass : CharClass.of c <;> rw [hclass] at hmode hfaults
    case sign | digit | capitalLetter | smallLetter => decide
    case punctuation | other => exact absurd hfaults (List.cons_ne_nil _ _)
    case tab | space | hash | doubleQuote => cases hmode
    case demarcator =>
      -- the word is emitted, as a predicate or as it is
      dsimp only at hmode
      split at hmode <;> cases hmode
    case singleQuote =>
      -- a quoted literal is opened, or the word is emitted
      simp only [openMarked] at hmode
      (repeat' split at hmode) <;> cases hmode
  · intro h
    simp only [nameClasses, List.mem_cons, List.not_mem_nil, or_false] at h
    rcases h with h | h | h | h <;> simp only [step, resumeWord, h]

end Scan

/-- A character goes on with a name without an error exactly if its class is one of those of names.
The characters of these classes are those of `CharClass.isWordChar`, except for the foreign ones
among them and the caseless ones among the others; and these are what distinguishes the letters
from the capitals and the small letters. No character is both. -/
theorem nameCharacter_iff (c : Char) :
    (∀ cursor p, Scan.step (.word p) cursor c = .next (.word p) .empty ↔
        CharClass.of c ∈ nameClasses) ∧
      (CharClass.of c ∈ nameClasses ∧ CharClass.isWordChar c = false ↔
        CharClass.isForeign c = true) ∧
      (CharClass.isWordChar c = true ∧ CharClass.of c ∉ nameClasses ↔
        CharClass.isCaseless c = true) ∧
      ((CharClass.isCapital c = true ∨ CharClass.isSmall c = true) ∧
          CharClass.isLetter c = false ↔ CharClass.isForeign c = true) ∧
      (CharClass.isLetter c = true ∧
          ¬(CharClass.isCapital c = true ∨ CharClass.isSmall c = true) ↔
        CharClass.isCaseless c = true) ∧
      ¬(CharClass.isCapital c = true ∧ CharClass.isSmall c = true) := by
  simp only [← Bool.not_eq_true]
  exact ⟨fun cursor p => Scan.step_word_iff cursor p c, CharClass.isForeign_iff_of_mem.symm,
    CharClass.isCaseless_iff_of_notMem.symm, CharClass.isForeign_iff.symm,
    CharClass.isCaseless_iff.symm, CharClass.not_isCapital_and_isSmall c⟩

/-- The `Ɓ` is read as a small letter, and is no character of names; the `Ͱ` is illegal in a name,
and is one. -/
theorem not_isWordChar_hooktop :
    ¬(CharClass.of 'Ɓ' ∈ nameClasses ↔ CharClass.isWordChar 'Ɓ' = true) ∧
      ¬(CharClass.of 'Ͱ' ∈ nameClasses ↔ CharClass.isWordChar 'Ͱ' = true) ∧
      CharClass.isSmall 'Ɓ' = true ∧ CharClass.isLetter 'Ɓ' = false := by
  decide

end LineLexer
