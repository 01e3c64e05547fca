import LineLexer.Proofs.Transition

/-!
# Listed transitions are taken

`transition_step` says that `step` makes one of the listed transitions. Here is the converse:
where the conditions of a listed transition hold, it is the one that `step` makes. With both,
a transition can be carried over from one line to another by carrying its conditions over.
-/

namespace LineLexer.Scan

section
variable {cursor : Cursor} {c : Char} {mode next : Mode} {faults : List Fault} {t : Token} {n : Nat}

theorem step_between (separated : Bool) :
    step (.between separated) cursor c = openLexeme cursor separated c := by
  cases separated <;> rfl

theorem openLexeme_of_isSymbolic {separated : Bool} (h : (CharClass.of c).isSymbolic = true) :
    openLexeme cursor separated c = openSymbol cursor c := by
  unfold openLexeme
  cases hc : CharClass.of c <;> rw [hc] at h <;> first | rfl | exact absurd h (by decide)

theorem isSymbolic_of_isLetterClass {k : CharClass} (h : k.isLetterClass = true) :
    k.isSymbolic = false := by
  cases k <;> first | rfl | exact absurd h (by decide)

theorem Opens.step_eq {separated : Bool} (h : Opens cursor c separated faults next) :
    step (.between separated) cursor c = ⟨⟨[], faults⟩, next, 1⟩ := by
  rw [step_between]
  cases h with
  | tab h | space h =>
    simp only [openLexeme, h]
    rfl
  | number h | capitalized h | uncapitalized h => simp only [openLexeme, h, openSeparated_eq]
  | doubleQuoted h | singleQuoted h =>
    simp only [openLexeme, h, openSeparated_eq]
    rfl
  | symbol h hs hambiguous =>
    simp only [openLexeme_of_isSymbolic h, openSymbol, hs, hambiguous]
    rfl

theorem Emits.step_eq {separated : Bool} (h : Emits cursor c faults t next n) :
    step (.between separated) cursor c = ⟨⟨[t], faults⟩, next, n⟩ := by
  rw [step_between]
  cases h with
  | symbol h hs hunambiguous =>
    simp only [openLexeme_of_isSymbolic h, openSymbol, hs, hunambiguous]
    rfl
  | illegal h | documentation h =>
    simp only [openLexeme, h]
    rfl

theorem step_number_of_isLetterClass {p : Pending} {radix : Radix}
    (h : (CharClass.of c).isLetterClass = true) :
    step (.number p radix) cursor c = letterInNumber cursor p radix c := by
  unfold step resumeNumber
  cases hc : CharClass.of c <;> rw [hc] at h <;> first | rfl | exact absurd h (by decide)

/-- In a number, a digit or a letter that is no mark is kept, with a fault if the radix does not
admit it. -/
theorem step_number_of_isAlphanumeric {p : Pending} {radix : Radix} (h : IsAlphanumeric c)
    (hunmarked : isLoneZero cursor p = true →
      CharClass.isBinaryMark c = false ∧ CharClass.isHexMark c = false) :
    step (.number p radix) cursor c =
      if radix.accepts c then .next (.number p radix) .empty else illegalDigit cursor p radix := by
  rcases h with hdigit | hletter
  · have hstep : step (.number p radix) cursor c = digitInNumber cursor p radix c := by
      simp only [step, resumeNumber, hdigit]
    have hdigit' := CharClass.of_eq_digit_iff.1 hdigit
    rw [hstep, digitInNumber]
    cases radix with
    | decimal => simp [Radix.accepts, hdigit']
    | binary => cases hb : CharClass.isBinaryDigit c <;> simp [Radix.accepts, hb]
    | hexadecimal => simp [Radix.accepts, CharClass.isHexDigit, hdigit']
  · have hmark : ∀ {marked : Bool}, (isLoneZero cursor p = true → marked = false) →
        (isLoneZero cursor p && marked) = false := by
      intro marked hmarked
      cases hzero : isLoneZero cursor p with
      | false => rfl
      | true => rw [hmarked hzero, Bool.and_false]
    rw [step_number_of_isLetterClass hletter, letterInNumber, hmark fun h => (hunmarked h).1,
      hmark fun h => (hunmarked h).2]
    cases hlegal : radix.accepts c with
    | true =>
      obtain rfl := Radix.eq_hexadecimal_of_accepts hlegal hletter
      have hhex : CharClass.isHexDigit c = true := hlegal
      simp [hhex]
    | false =>
      have hillegal : (radix = .hexadecimal && CharClass.isHexDigit c) = false := by
        cases radix with
        | hexadecimal => exact hlegal
        | decimal | binary => rfl
      simp [hillegal]

/-- A lone zero is the start of a decimal number, so what the radix admits then is no mark. -/
theorem NumberText.unmarked {p : Pending} {radix : Radix} (h : NumberText p radix (p.text cursor))
    (hlegal : radix.accepts c = true) (hzero : isLoneZero cursor p = true) :
    CharClass.isBinaryMark c = false ∧ CharClass.isHexMark c = false := by
  have hcat : p.category = .integer := by
    simp only [isLoneZero, Bool.and_eq_true, beq_iff_eq] at hzero
    exact hzero.1.1
  have hdigit : CharClass.isDigit c = true := by
    generalize p.text cursor = text at h
    cases h with
    | integer => exact hlegal
    | binary hp | hexadecimal hp | fraction hp | repetend hp => exact nomatch hcat.symm.trans hp
  exact CharClass.unmarked_of_isDigit hdigit

theorem Resumes.step_eq (h : Resumes cursor c mode faults next n) (hd : mode.Describes cursor) :
    step mode cursor c = ⟨⟨[], faults⟩, next, n⟩ := by
  cases h with
  | space h | tab h =>
    simp only [step, resumeWhitespace, h]
    rfl
  | signed hfirst hsign h =>
    simp only [step, resumeSymbol, hfirst, isSymbolic_of_isLetterClass h, h, hsign]
    rfl
  | word h =>
    simp only [List.mem_cons, List.not_mem_nil, or_false] at h
    rcases h with h | h | h | h <;> simp only [step, resumeWord, h] <;> rfl
  | illegalInWord h =>
    simp only [List.mem_cons, List.not_mem_nil, or_false] at h
    rcases h with h | h <;> simp only [step, resumeWord, h] <;> rfl
  | binaryQuoted h hwidth hmark hbinary =>
    simp only [step, resumeWord, h, hwidth, openMarked, hmark, Option.any_some, hbinary, if_true,
      Bool.or_false]
    rfl
  | @hexQuoted p mark h hwidth hmark hhex =>
    have hbinary := CharClass.isBinaryMark_of_isHexMark hhex
    simp only [step, resumeWord, h, hwidth, openMarked, hmark, Option.any_some, hbinary, hhex,
      if_true, Bool.or_false]
    rfl
  | unknownQuoted h hwidth hmark hbinary hhex =>
    simp only [step, resumeWord, h, hwidth, openMarked, hmark, Option.any_some, hbinary, hhex,
      if_true, Bool.or_true]
    rfl
  | digit h hlegal =>
    rw [step_number_of_isAlphanumeric h (NumberText.unmarked hd hlegal), hlegal]
    rfl
  | illegalDigit h hillegal hunmarked =>
    rw [step_number_of_isAlphanumeric h hunmarked, hillegal]
    rfl
  | binaryMark hzero hmark =>
    have hletter := CharClass.isLetterClass_of_isBinaryMark hmark
    rw [step_number_of_isLetterClass hletter, letterInNumber, hzero, hmark]
    rfl
  | hexMark hzero hmark =>
    have hletter := CharClass.isLetterClass_of_isHexMark hmark
    have hbinary := CharClass.isBinaryMark_of_isHexMark hmark
    rw [step_number_of_isLetterClass hletter, letterInNumber, hzero, hmark, hbinary]
    rfl
  | doubleQuoted h =>
    have hopen : ¬(c = '"' ∧ cursor.previous? ≠ some '\\') := fun hclosing =>
      hclosing.2 (h hclosing.1)
    simp only [step, resumeDoubleQuoted, if_neg hopen]
    rfl
  | singleQuoted h =>
    simp only [step, resumeSingleQuoted, if_pos h]
    rfl
  | doubledQuote h hnext =>
    simp only [step, resumeSingleQuoted, h, hnext, ne_eq, not_true_eq_false, if_true, if_false]
    rfl

/-- Any other character ends a number. -/
theorem step_number_of_not_isAlphanumeric {p : Pending} {radix : Radix} (h : ¬IsAlphanumeric c)
    (hnogap : CharClass.of c ∉ [.sign, .punctuation]) (hpoint : c ≠ '.')
    (hleft : c = '(' → p.category = .repetend) (hright : c = ')' → p.category ≠ .repetend) :
    step (.number p radix) cursor c = leaveNumber cursor p := by
  simp only [List.mem_cons, List.not_mem_nil, or_false, not_or] at hnogap
  simp only [step, resumeNumber]
  split
  case h_1 hc => exact absurd (.inl hc) h
  case h_2 hc | h_3 hc => exact absurd (.inr (by rw [hc]; rfl)) h
  case h_4 =>
    rw [if_neg hpoint]
    split
    · next hc => simp only [openRepetend, hleft hc]
    · rw [if_neg fun hboth => hright hboth.1 hboth.2]
  case h_5 hc => exact absurd hc hnogap.1
  case h_6 hc => exact absurd hc hnogap.2
  case h_7 => rfl

theorem Closes.step_eq (h : Closes cursor c mode faults t next n) (hd : mode.Describes cursor) :
    step mode cursor c = ⟨⟨[t], faults⟩, next, n⟩ := by
  cases h with
  | whitespace h h' =>
    simp only [step, resumeWhitespace]
    rfl
  | pair hfirst h hs =>
    simp only [step, resumeSymbol, hfirst, h, hs, if_true]
    rfl
  | @symbol p first s hfirst hs hunpaired hunsigned =>
    have hclose := closeSymbol_eq (hd.text_symbol hfirst) hs
    have hleave : leaveSymbol cursor p =
        ⟨⟨[.ofSymbol s p.start cursor.position], []⟩, .after s, 0⟩ := by
      simp only [leaveSymbol, hclose]
      rfl
    simp only [step, resumeSymbol, hfirst, hleave]
    by_cases hsymbolic : (CharClass.of c).isSymbolic = true
    · rw [if_pos hsymbolic, hunpaired hsymbolic]
    · rw [if_neg hsymbolic]
      split
      · next hsigned =>
        rw [Bool.and_eq_true] at hsigned
        exact absurd ((hunsigned hsigned.1).symm.trans hsigned.2) Bool.false_ne_true
      · rfl
  | predicate h =>
    have hclass : CharClass.of c = .demarcator := by
      rw [h]
      rfl
    simp only [step, resumeWord, hclass, if_pos h]
    rfl
  | word h hquery hmark =>
    simp only [step, resumeWord]
    split
    case h_1 hc | h_2 hc | h_3 hc | h_4 hc | h_6 hc | h_7 hc =>
      rw [hc] at h
      exact absurd h (by decide)
    case h_5 => rw [if_neg hquery]; rfl
    case h_8 hc => rw [if_neg (hmark hc)]; rfl
    case h_9 => rfl
  | range h hcat hwidth =>
    have hclass : CharClass.of c = .demarcator := by
      rw [h]
      rfl
    simp only [step, resumeNumber, hclass, if_pos h, pointInNumber, hcat, hwidth]
    rfl
  | repetend h hcat =>
    subst h
    simp only [step, resumeNumber, hcat]
    rfl
  | numberGap h =>
    simp only [List.mem_cons, List.not_mem_nil, or_false] at h
    rcases h with h | h <;> simp only [step, resumeNumber, h, closeNumber_eq] <;> rfl
  | number h hnogap hpoint hleft hright =>
    rw [step_number_of_not_isAlphanumeric h hnogap hpoint hleft hright, leaveNumber,
      closeNumber_eq]
    rfl
  | doubleQuoted h hunescaped =>
    simp only [step, resumeDoubleQuoted, if_pos (And.intro h hunescaped)]
    rfl
  | singleQuoted h hsingle =>
    simp only [step, resumeSingleQuoted, h, ne_eq, not_true_eq_false, if_false, if_neg hsingle]
    rfl

theorem HandsOver.step_eq (h : HandsOver cursor c mode faults t next) :
    step mode cursor c = ⟨⟨[t], faults⟩, next, 1⟩ := by
  cases h with
  | fraction h hinteger =>
    subst h
    simp only [step, resumeNumber, pointInNumber, hinteger]
    rfl
  | secondPoint h hinteger hnorange =>
    have hrange : ¬(_ ∧ _) := not_and.2 hnorange
    subst h
    simp only [step, resumeNumber, pointInNumber, hinteger, if_neg hrange, closeNumber_eq]
    rfl
  | repetend h hfraction =>
    subst h
    simp only [step, resumeNumber, openRepetend, hfraction]
    rfl
  | pointless h hfraction hrepetend =>
    subst h
    show openRepetend cursor _ _ = _
    unfold openRepetend
    split
    · contradiction
    · contradiction
    · rfl

/-- Where the conditions of a transition hold, it is the one that is taken. -/
theorem Transition.step_eq {s : Step} (h : Transition cursor c mode s)
    (hd : mode.Describes cursor) : step mode cursor c = s := by
  cases h with
  | opens h => exact h.step_eq
  | emits h => exact h.step_eq
  | resumes h => exact h.step_eq hd
  | closes h => exact h.step_eq hd
  | handsOver h => exact h.step_eq

end

end LineLexer.Scan
