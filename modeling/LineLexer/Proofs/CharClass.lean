import LineLexer.CharClass

/-!
# Members of the character classes

`CharClass.Member` says of each class which characters it holds, and `member_of` that
every character is a member of its class. The tests of `CharClass.of` apply in order, so
the converse needs that no earlier test gets in the way: it is stated for the classes
with one member and for signs, where the character can simply be looked up.
-/

namespace LineLexer
namespace CharClass

open Text (inRange)

/-- What is known of a character in a class. -/
def Member (c : Char) : CharClass → Prop
  | .tab => c = '\t'
  | .space => c = ' '
  | .hash => c = '#'
  | .sign => isSign c = true
  | .digit => isDigit c = true
  | .capitalLetter => isCapital c = true
  | .smallLetter => isSmall c = true
  | .doubleQuote => c = '"'
  | .singleQuote => c = '\''
  | .demarcator => ∃ s, Symbol.ofChar? c = some s ∧ s.demarcating = true
  | .punctuation => ∃ s, Symbol.ofChar? c = some s ∧ s.demarcating = false
  | .other => Symbol.ofChar? c = none

/-- Every character is a member of its class. -/
theorem member_of (c : Char) : Member c (of c) := by
  unfold of
  -- the tests in their order; each says what its class says
  repeat refine iteInduction (motive := Member c) id fun _ => ?_
  split
  · next s hs =>
    refine iteInduction (motive := Member c) (fun h => ⟨s, hs, h⟩) fun h => ⟨s, hs, ?_⟩
    exact eq_false_of_ne_true h
  · assumption

theorem member_of_eq {c : Char} {k : CharClass} (h : of c = k) : Member c k :=
  h ▸ member_of c

theorem of_eq_tab_iff {c : Char} : of c = .tab ↔ c = '\t' :=
  ⟨member_of_eq, by rintro rfl; rfl⟩

theorem of_eq_space_iff {c : Char} : of c = .space ↔ c = ' ' :=
  ⟨member_of_eq, by rintro rfl; rfl⟩

theorem of_eq_hash_iff {c : Char} : of c = .hash ↔ c = '#' :=
  ⟨member_of_eq, by rintro rfl; rfl⟩

theorem of_eq_doubleQuote_iff {c : Char} : of c = .doubleQuote ↔ c = '"' :=
  ⟨member_of_eq, by rintro rfl; rfl⟩

theorem of_eq_singleQuote_iff {c : Char} : of c = .singleQuote ↔ c = '\'' :=
  ⟨member_of_eq, by rintro rfl; rfl⟩

theorem of_eq_sign_iff {c : Char} : of c = .sign ↔ isSign c = true := by
  refine ⟨member_of_eq, fun h => ?_⟩
  rcases isSign_iff.1 h with rfl | rfl <;> rfl

theorem of_eq_digit_iff {c : Char} : of c = .digit ↔ isDigit c = true := by
  refine ⟨member_of_eq, fun h => ?_⟩
  have hne : c ≠ '\t' ∧ c ≠ ' ' ∧ c ≠ '#' ∧ c ≠ '+' ∧ c ≠ '-' := by
    refine ⟨?_, ?_, ?_, ?_, ?_⟩ <;> rintro rfl <;> exact absurd h (by decide)
  simp [of, isSign, hne, h]

theorem isLetterClass_of_isSymbolic {k : CharClass} (h : k.isSymbolic = true) :
    k.isLetterClass = false := by
  cases k <;> first | rfl | exact absurd h (by decide)

theorem isDigit_of_isBinaryDigit {c : Char} (h : isBinaryDigit c = true) : isDigit c = true := by
  rcases isBinaryDigit_iff.1 h with rfl | rfl <;> rfl

theorem isDigit_of_isLetterClass {c : Char} (h : (of c).isLetterClass = true) :
    isDigit c = false := by
  refine eq_false_of_ne_true fun hd => ?_
  rw [of_eq_digit_iff.2 hd] at h
  exact absurd h (by decide)

theorem isLetterClass_of_isBinaryMark {c : Char} (h : isBinaryMark c = true) :
    (of c).isLetterClass = true := by
  rcases isBinaryMark_iff.1 h with rfl | rfl <;> rfl

theorem isLetterClass_of_isHexMark {c : Char} (h : isHexMark c = true) :
    (of c).isLetterClass = true := by
  rcases isHexMark_iff.1 h with rfl | rfl <;> rfl

theorem isBinaryMark_of_isHexMark {c : Char} (h : isHexMark c = true) :
    isBinaryMark c = false := by
  rcases isHexMark_iff.1 h with rfl | rfl <;> rfl

/-- A digit is no mark. -/
theorem unmarked_of_isDigit {c : Char} (h : isDigit c = true) :
    isBinaryMark c = false ∧ isHexMark c = false := by
  have hletter : ¬(of c).isLetterClass = true := by
    rw [of_eq_digit_iff.2 h]
    decide
  constructor
  · exact eq_false_of_ne_true fun hmark => hletter (isLetterClass_of_isBinaryMark hmark)
  · exact eq_false_of_ne_true fun hmark => hletter (isLetterClass_of_isHexMark hmark)

theorem inRange_iff {first last : Nat} {c : Char} :
    inRange first last c = true ↔ first ≤ c.toNat ∧ c.toNat ≤ last := by
  simp only [inRange, Bool.and_eq_true, decide_eq_true_eq]

/-- The first character that has a case is the `A`. -/
theorem le_toNat_of_cased {c : Char} (h : isCapital c = true ∨ isSmall c = true) :
    0x41 ≤ c.toNat := by
  simp only [isCapital, isSmall, inRange_iff, Bool.or_eq_true, Bool.and_eq_true, beq_iff_eq] at h
  omega

/-- What has a case is of the class of its case, as no earlier test gets in the way. -/
theorem of_eq_of_cased {c : Char} (h : isCapital c = true ∨ isSmall c = true) :
    of c = if isCapital c then .capitalLetter else .smallLetter := by
  have hbound := le_toNat_of_cased h
  have hne : ∀ d : Char, d.toNat < 0x41 → c ≠ d := by
    rintro d hd rfl
    omega
  have hsign : isSign c = false := by
    simp only [isSign, beq_eq_false_iff_ne.2 (hne '+' (by decide)),
      beq_eq_false_iff_ne.2 (hne '-' (by decide)), Bool.or_self]
  have hdigit : isDigit c = false := by
    refine eq_false_of_ne_true fun hdigit => ?_
    have hrange := inRange_iff.1 hdigit
    omega
  simp only [of, if_neg (hne '\t' (by decide)), if_neg (hne ' ' (by decide)),
    if_neg (hne '#' (by decide)), hsign, hdigit, Bool.false_eq_true, if_false]
  split
  · rfl
  · next hcapital => rw [if_pos (h.resolve_left hcapital)]

/-- The classes of letters hold what has a case. -/
theorem isLetterClass_of_iff {c : Char} :
    (of c).isLetterClass = true ↔ isCapital c = true ∨ isSmall c = true := by
  constructor
  · intro h
    have hmember := member_of c
    cases hclass : of c <;> rw [hclass] at h hmember
    case capitalLetter => exact .inl hmember
    case smallLetter => exact .inr hmember
    all_goals exact absurd h (by decide)
  · intro h
    rw [of_eq_of_cased h]
    split <;> rfl

/-- A hexadecimal digit is a digit or a letter. -/
theorem of_isHexDigit {c : Char} (h : isHexDigit c = true) :
    of c = .digit ∨ (of c).isLetterClass = true := by
  rcases isHexDigit_iff.1 h with hdigit | ⟨hfirst, hlast⟩ | ⟨hfirst, hlast⟩
  · exact .inl (of_eq_digit_iff.2 (isDigit_iff.2 hdigit))
  · have hrange : inRange 0x41 0x5A c = true :=
      (inRange_toNat 'A' 'Z').2 ⟨hfirst, Char.le_trans hlast (by decide)⟩
    exact .inr (isLetterClass_of_iff.2 (.inl (by simp only [isCapital, hrange, Bool.true_or])))
  · have hrange : inRange 0x61 0x7A c = true :=
      (inRange_toNat 'a' 'z').2 ⟨hfirst, Char.le_trans hlast (by decide)⟩
    exact .inr (isLetterClass_of_iff.2 (.inr (by simp only [isSmall, hrange, Bool.true_or])))

/-- A sign is a symbol, and not a demarcating one. -/
theorem ofChar?_of_sign {c : Char} (h : isSign c = true) :
    ∃ s, Symbol.ofChar? c = some s ∧ s.demarcating = false := by
  rcases isSign_iff.1 h with rfl | rfl
  · exact ⟨.adding, rfl, rfl⟩
  · exact ⟨.reducing, rfl, rfl⟩

/-- A character of a symbol class is a symbol. -/
theorem ofChar?_of_isSymbolic {c : Char} (h : (of c).isSymbolic = true) :
    ∃ s, Symbol.ofChar? c = some s := by
  have hmem := member_of c
  cases hc : of c <;> rw [hc] at h hmem
  case sign =>
    obtain ⟨s, hs, -⟩ := ofChar?_of_sign hmem
    exact ⟨s, hs⟩
  case demarcator | punctuation =>
    obtain ⟨s, hs, -⟩ := hmem
    exact ⟨s, hs⟩
  all_goals simp [isSymbolic] at h

/-- Symbols consist of characters of the symbol classes. -/
theorem isSymbolic_of_mem_chars {s : Symbol} {c : Char} (h : c ∈ s.chars) :
    (of c).isSymbolic = true := by
  have hall : (Symbol.all.all fun s => s.chars.all fun c => (of c).isSymbolic) = true := by
    decide +kernel
  exact List.all_eq_true.1 (List.all_eq_true.1 hall s s.mem_all) c h

end CharClass
end LineLexer
