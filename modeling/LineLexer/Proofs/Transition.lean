import LineLexer.Proofs.State

/-!
# The transitions of the scan

Every transition does one of five things, and `Transition` lists them all with the
conditions under which they are taken:

* `Opens`: between two lexemes, it opens a token at the cursor;
* `Emits`: between two lexemes, it emits a whole token at once;
* `Resumes`: it goes on with the token under construction;
* `Closes`: it emits the token under construction and leads between two lexemes;
* `HandsOver`: it emits a part of a number and opens the next part.

`transition_step` says that `step` makes one of these transitions, and `finishes_finish` the
same of the end of the line. What is true of every transition is proved from these
lists; `step` itself is not opened again.
-/

namespace LineLexer.Scan

/-! ## Names for what transitions put out -/

/-- The mode between two lexemes. -/
def Mode.between (separated : Bool) : Mode :=
  if separated then .demarcated else .undemarcated

/-- The issue of a tab that opens a run of whitespace. -/
def tabIssue (column : Nat) : SyntaxIssue :=
  if column = 0 then .indentationWithTab else .illegalTab

/-- The fault at a boundary where a separation is missing. -/
def gapUnless (separated : Bool) (issue : SyntaxIssue) (column : Nat) : List Fault :=
  if separated then [] else [⟨issue, .gap column⟩]

/-- The faults of closing a part of a number that has no closing delimiter. -/
def closingFaults (p : Pending) (stop : Nat) : List Fault :=
  if p.category = .repetend then [⟨.uncompletedRepetend, .span p.start stop⟩] else []

/-- The token of closing a part of a number that has no closing delimiter. -/
def closedNumber (cursor : Cursor) (p : Pending) (stop : Nat) : Token :=
  (if p.category = .repetend then p.invalidated else p).token cursor stop stop

/-- The digits that a radix admits. -/
def Radix.accepts : Radix → Char → Bool
  | .decimal => CharClass.isDigit
  | .binary => CharClass.isBinaryDigit
  | .hexadecimal => CharClass.isHexDigit

/-- Only a hexadecimal number admits letters. -/
theorem Radix.eq_hexadecimal_of_accepts {radix : Radix} {c : Char} (h : radix.accepts c = true)
    (hletter : (CharClass.of c).isLetterClass = true) : radix = .hexadecimal := by
  have hdigit := CharClass.isDigit_of_isLetterClass hletter
  cases radix with
  | decimal => exact absurd (hdigit.symm.trans h) Bool.false_ne_true
  | binary =>
    have hbinary := CharClass.isDigit_of_isBinaryDigit h
    exact absurd (hdigit.symm.trans hbinary) Bool.false_ne_true
  | hexadecimal => rfl

theorem closeNumber_eq (cursor : Cursor) (p : Pending) (stop : Nat) :
    closeNumber cursor p stop = ⟨[closedNumber cursor p stop], closingFaults p stop⟩ := by
  unfold closeNumber closedNumber closingFaults
  split <;> rfl

theorem openSeparated_eq (cursor : Cursor) (separated : Bool) (category : Category)
    (issue : SyntaxIssue) (enter : Pending → Mode) :
    openSeparated cursor separated category issue enter =
      ⟨⟨[], gapUnless separated issue cursor.position⟩,
        enter ⟨category, cursor.position, 0, !separated⟩, 1⟩ := by
  cases separated <;> rfl

/-! ## The five kinds of transitions -/

section
variable (cursor : Cursor) (c : Char)

/-- Opens a token between two lexemes; the faults and the mode it leads to. -/
inductive Opens (separated : Bool) : List Fault → Mode → Prop
  | tab (h : CharClass.of c = .tab) :
      Opens separated [⟨tabIssue cursor.position, .span cursor.position (cursor.position + 1)⟩]
        (.whitespace ⟨.whitespace, cursor.position, 0, true⟩)
  | space (h : CharClass.of c = .space) :
      Opens separated [] (.whitespace ⟨.whitespace, cursor.position, 0, false⟩)
  | number (h : CharClass.of c = .digit) :
      Opens separated (gapUnless separated .missingDemarcationFromNumber cursor.position)
        (.number ⟨.integer, cursor.position, 0, !separated⟩ .decimal)
  | capitalized (h : CharClass.of c = .capitalLetter) :
      Opens separated (gapUnless separated .missingDemarcation cursor.position)
        (.word ⟨.capitalizedName, cursor.position, 0, !separated⟩)
  | uncapitalized (h : CharClass.of c = .smallLetter) :
      Opens separated (gapUnless separated .missingDemarcation cursor.position)
        (.word ⟨.uncapitalizedName, cursor.position, 0, !separated⟩)
  | doubleQuoted (h : CharClass.of c = .doubleQuote) :
      Opens separated (gapUnless separated .missingDemarcationFromString cursor.position)
        (.doubleQuoted ⟨.string, cursor.position, 1, !separated⟩)
  | singleQuoted (h : CharClass.of c = .singleQuote) :
      Opens separated (gapUnless separated .missingDemarcationFromString cursor.position)
        (.singleQuoted ⟨.rawString, cursor.position, 1, !separated⟩)
  | symbol {s : Symbol} (h : (CharClass.of c).isSymbolic = true) (hs : Symbol.ofChar? c = some s)
      (ambiguous : s.unambiguous = false) :
      Opens separated [] (.symbol (.opened .punctuation cursor.position))

/-- Emits a whole token between two lexemes; the faults, the token, the mode it leads to and the
number of characters. -/
inductive Emits : List Fault → Token → Mode → Nat → Prop
  | symbol {s : Symbol} (h : (CharClass.of c).isSymbolic = true) (hs : Symbol.ofChar? c = some s)
      (unambiguous : s.unambiguous = true) :
      Emits [] (.ofSymbol s cursor.position (cursor.position + 1)) (.after s) 1
  | illegal (h : CharClass.of c = .other) :
      Emits [⟨.illegalCharacter, .span cursor.position (cursor.position + 1)⟩]
        (.tag .punctuation (some (String.singleton c)) cursor.position (cursor.position + 1) true)
        .demarcated 1
  | documentation (h : CharClass.of c = .hash) :
      Emits []
        (.tag .documentation
          (some (String.ofList (documentationText (cursor.slice cursor.position cursor.size))))
          cursor.position cursor.size false)
        .documentation (cursor.size - cursor.position)

/-- Goes on with the token under construction; the faults, the next mode and the number of
characters. -/
inductive Resumes : Mode → List Fault → Mode → Nat → Prop
  | space {p : Pending} (h : CharClass.of c = .space) :
      Resumes (.whitespace p) [] (.whitespace p) 1
  | tab {p : Pending} (h : CharClass.of c = .tab) :
      Resumes (.whitespace p) [⟨.illegalTab, .span cursor.position (cursor.position + 1)⟩]
        (.whitespace p.invalidated) 1
  | signed {p : Pending} {first : Char} (hfirst : cursor.charAt? p.start = some first)
      (sign : CharClass.isSign first = true) (h : (CharClass.of c).isLetterClass = true) :
      Resumes (.symbol p) [] (.word (p.recast (signedName first (CharClass.of c)))) 1
  | word {p : Pending}
      (h : CharClass.of c ∈ [.sign, .digit, .capitalLetter, .smallLetter]) :
      Resumes (.word p) [] (.word p) 1
  | illegalInWord {p : Pending} (h : CharClass.of c ∈ [.punctuation, .other]) :
      Resumes (.word p) [⟨.illegalCharacterInWord, .span cursor.position (cursor.position + 1)⟩]
        (.word p.invalidated) 1
  | binaryQuoted {p : Pending} {mark : Char} (h : CharClass.of c = .singleQuote)
      (width : p.width cursor.position = 1) (hmark : cursor.charAt? p.start = some mark)
      (marked : CharClass.isBinaryMark mark = true) :
      Resumes (.word p) [] (.singleQuoted ⟨.binary, p.start, 2, p.invalid⟩) 1
  | hexQuoted {p : Pending} {mark : Char} (h : CharClass.of c = .singleQuote)
      (width : p.width cursor.position = 1) (hmark : cursor.charAt? p.start = some mark)
      (marked : CharClass.isHexMark mark = true) :
      Resumes (.word p) [] (.singleQuoted ⟨.hex, p.start, 2, p.invalid⟩) 1
  | unknownQuoted {p : Pending} {mark : Char} (h : CharClass.of c = .singleQuote)
      (width : p.width cursor.position = 1) (hmark : cursor.charAt? p.start = some mark)
      (binary : CharClass.isBinaryMark mark = false) (hex : CharClass.isHexMark mark = false) :
      Resumes (.word p) [⟨.unknownStringPrefix, .span p.start (p.start + 1)⟩]
        (.singleQuoted ⟨.rawString, p.start, 2, true⟩) 1
  | digit {p : Pending} {radix : Radix} (h : IsAlphanumeric c) (legal : radix.accepts c = true) :
      Resumes (.number p radix) [] (.number p radix) 1
  | illegalDigit {p : Pending} {radix : Radix} (h : IsAlphanumeric c)
      (illegal : radix.accepts c = false)
      (unmarked : isLoneZero cursor p = true →
        CharClass.isBinaryMark c = false ∧ CharClass.isHexMark c = false) :
      Resumes (.number p radix)
        [⟨digitIssue radix, .span cursor.position (cursor.position + 1)⟩]
        (.number p.invalidated radix) 1
  | binaryMark {p : Pending} {radix : Radix} (zero : isLoneZero cursor p = true)
      (marked : CharClass.isBinaryMark c = true) :
      Resumes (.number p radix) [] (.number ((p.recast .binaryInteger).skipping 2) .binary) 1
  | hexMark {p : Pending} {radix : Radix} (zero : isLoneZero cursor p = true)
      (marked : CharClass.isHexMark c = true) :
      Resumes (.number p radix) []
        (.number ((p.recast .hexadecimalInteger).skipping 2) .hexadecimal) 1
  | doubleQuoted {p : Pending} (h : c = '"' → cursor.previous? = some '\\') :
      Resumes (.doubleQuoted p) [] (.doubleQuoted p) 1
  | singleQuoted {p : Pending} (h : c ≠ '\'') :
      Resumes (.singleQuoted p) [] (.singleQuoted p) 1
  | doubledQuote {p : Pending} (h : c = '\'') (next : cursor.peek? 1 = some '\'') :
      Resumes (.singleQuoted p) [] (.singleQuoted p) 2

/-- Emits the token under construction; the faults, the token, the mode between two lexemes and
the number of characters. -/
inductive Closes : Mode → List Fault → Token → Mode → Nat → Prop
  | whitespace {p : Pending} (h : CharClass.of c ≠ .space) (h' : CharClass.of c ≠ .tab) :
      Closes (.whitespace p) [] (p.token cursor cursor.position cursor.position) .demarcated 0
  | pair {p : Pending} {first : Char} {s : Symbol} (hfirst : cursor.charAt? p.start = some first)
      (h : (CharClass.of c).isSymbolic = true) (hs : Symbol.ofChars? [first, c] = some s) :
      Closes (.symbol p) [] (.ofSymbol s p.start (cursor.position + 1)) (.after s) 1
  | symbol {p : Pending} {first : Char} {s : Symbol} (hfirst : cursor.charAt? p.start = some first)
      (hs : Symbol.ofChar? first = some s)
      (unpaired : (CharClass.of c).isSymbolic = true → Symbol.ofChars? [first, c] = none)
      (unsigned : (CharClass.of c).isLetterClass = true → CharClass.isSign first = false) :
      Closes (.symbol p) [] (.ofSymbol s p.start cursor.position) (.after s) 0
  | predicate {p : Pending} (h : c = '?') :
      Closes (.word p) []
        ((p.recast .predicate).token cursor (cursor.position + 1) (cursor.position + 1))
        .undemarcated 1
  | word {p : Pending} (h : continuesWord (CharClass.of c) = false) (query : c ≠ '?')
      (unmarked : CharClass.of c = .singleQuote → p.width cursor.position ≠ 1) :
      Closes (.word p) [] (p.token cursor cursor.position cursor.position) .undemarcated 0
  | range {p : Pending} {radix : Radix} (h : c = '.') (fraction : p.category = .fraction)
      (width : p.width cursor.position = 1) :
      Closes (.number p radix) [] (.ofSymbol .ellipsis p.start (cursor.position + 1))
        .demarcated 1
  | repetend {p : Pending} {radix : Radix} (h : c = ')') (repetend : p.category = .repetend) :
      Closes (.number p radix) [] (p.token cursor cursor.position (cursor.position + 1))
        .undemarcated 1
  | numberGap {p : Pending} {radix : Radix} (h : CharClass.of c ∈ [.sign, .punctuation]) :
      Closes (.number p radix)
        (⟨.missingDemarcationFromNumber, .gap cursor.position⟩ ::
          closingFaults p cursor.position)
        (closedNumber cursor p cursor.position) .demarcated 0
  | number {p : Pending} {radix : Radix} (h : ¬IsAlphanumeric c)
      (nogap : CharClass.of c ∉ [.sign, .punctuation]) (point : c ≠ '.')
      (left : c = '(' → p.category = .repetend) (right : c = ')' → p.category ≠ .repetend) :
      Closes (.number p radix) (closingFaults p cursor.position)
        (closedNumber cursor p cursor.position) .undemarcated 0
  | doubleQuoted {p : Pending} (h : c = '"') (unescaped : cursor.previous? ≠ some '\\') :
      Closes (.doubleQuoted p) [] (p.token cursor cursor.position (cursor.position + 1))
        .undemarcated 1
  | singleQuoted {p : Pending} (h : c = '\'') (single : cursor.peek? 1 ≠ some '\'') :
      Closes (.singleQuoted p) [] (p.token cursor cursor.position (cursor.position + 1))
        .undemarcated 1

/-- Emits a part of a number and opens the next part; the faults, the token and the next mode. -/
inductive HandsOver : Mode → List Fault → Token → Mode → Prop
  | fraction {p : Pending} {radix : Radix} (h : c = '.') (integer : p.category.isInteger = true) :
      HandsOver (.number p radix) [] (p.token cursor cursor.position cursor.position)
        (.number ⟨.fraction, cursor.position, 1, false⟩ radix)
  | secondPoint {p : Pending} {radix : Radix} (h : c = '.') (integer : p.category.isInteger = false)
      (norange : p.category = .fraction → p.width cursor.position ≠ 1) :
      HandsOver (.number p radix)
        (closingFaults p cursor.position ++
          [⟨.invalidNumber, .span p.start (cursor.position + 1)⟩])
        (closedNumber cursor p cursor.position)
        (.number ⟨.fraction, cursor.position, 1, true⟩ radix)
  | repetend {p : Pending} {radix : Radix} (h : c = '(') (fraction : p.category = .fraction) :
      HandsOver (.number p radix) [] (p.token cursor cursor.position cursor.position)
        (.number ⟨.repetend, cursor.position, 1, false⟩ radix)
  | pointless {p : Pending} {radix : Radix} (h : c = '(') (fraction : p.category ≠ .fraction)
      (repetend : p.category ≠ .repetend) :
      HandsOver (.number p radix)
        [⟨.missingDecimalPoint, .span p.start (cursor.position + 1)⟩]
        (p.token cursor cursor.position cursor.position)
        (.number ⟨.repetend, cursor.position, 1, true⟩ radix)

/-- A transition from a mode. -/
inductive Transition : Mode → Step → Prop
  | opens {separated : Bool} {faults : List Fault} {mode : Mode}
      (h : Opens cursor c separated faults mode) :
      Transition (.between separated) ⟨⟨[], faults⟩, mode, 1⟩
  | emits {separated : Bool} {faults : List Fault} {t : Token} {mode : Mode} {n : Nat}
      (h : Emits cursor c faults t mode n) :
      Transition (.between separated) ⟨⟨[t], faults⟩, mode, n⟩
  | resumes {mode next : Mode} {faults : List Fault} {n : Nat}
      (h : Resumes cursor c mode faults next n) :
      Transition mode ⟨⟨[], faults⟩, next, n⟩
  | closes {mode next : Mode} {faults : List Fault} {t : Token} {n : Nat}
      (h : Closes cursor c mode faults t next n) :
      Transition mode ⟨⟨[t], faults⟩, next, n⟩
  | handsOver {mode next : Mode} {faults : List Fault} {t : Token}
      (h : HandsOver cursor c mode faults t next) :
      Transition mode ⟨⟨[t], faults⟩, next, 1⟩

end

/-! ## The transitions of `step` -/

section
variable {cursor : Cursor} {c : Char}

theorem transition_openSymbol (separated : Bool) (h : (CharClass.of c).isSymbolic = true) :
    Transition cursor c (.between separated) (openSymbol cursor c) := by
  obtain ⟨s, hs⟩ := CharClass.ofChar?_of_isSymbolic h
  simp only [openSymbol, hs]
  cases hu : s.unambiguous with
  | true => exact .emits (.symbol h hs hu)
  | false => exact .opens (.symbol h hs hu)

theorem transition_openLexeme (separated : Bool) :
    Transition cursor c (.between separated) (openLexeme cursor separated c) := by
  unfold openLexeme
  simp only [openSeparated_eq]
  split
  case h_1 h => exact .opens (.tab h)
  case h_2 h => exact .opens (.space h)
  case h_3 h => exact .emits (.documentation h)
  case h_4 h => exact .opens (.number h)
  case h_5 h => exact .opens (.capitalized h)
  case h_6 h => exact .opens (.uncapitalized h)
  case h_7 h => exact .opens (.doubleQuoted h)
  case h_8 h => exact .opens (.singleQuoted h)
  case h_9 h | h_10 h | h_11 h => exact transition_openSymbol separated (by rw [h]; rfl)
  case h_12 h => exact .emits (.illegal h)

theorem transition_resumeWhitespace (p : Pending) :
    Transition cursor c (.whitespace p) (resumeWhitespace cursor p c) := by
  unfold resumeWhitespace
  split
  case h_1 h => exact .resumes (.space h)
  case h_2 h => exact .resumes (.tab h)
  case h_3 h h' => exact .closes (.whitespace h h')

/-- The symbol held back is found in the registry. -/
theorem closeSymbol_eq {p : Pending} {first : Char} {s : Symbol} (htext : p.text cursor = [first])
    (hs : Symbol.ofChar? first = some s) :
    closeSymbol cursor p cursor.position =
      (.token (.ofSymbol s p.start cursor.position), .after s) := by
  have hslice : cursor.slice p.start cursor.position = [first] := htext
  have hs' : Symbol.ofChars? [first] = some s := hs
  simp only [closeSymbol, hslice, hs']

theorem transition_resumeSymbol {p : Pending} (h : (Mode.symbol p).Describes cursor) :
    Transition cursor c (.symbol p) (resumeSymbol cursor p c) := by
  obtain ⟨first, s, hfirst, htext, hs, -⟩ := h.exists_held
  have hleave : leaveSymbol cursor p =
      ⟨.token (.ofSymbol s p.start cursor.position), .after s, 0⟩ := by
    simp only [leaveSymbol, closeSymbol_eq htext hs]
    rfl
  simp only [resumeSymbol, hfirst, hleave]
  by_cases hsym : (CharClass.of c).isSymbolic = true
  · rw [if_pos hsym]
    split
    · next pair hpair => exact .closes (.pair hfirst hsym hpair)
    · next hpair =>
      refine .closes (.symbol hfirst hs (fun _ => hpair) fun hl => ?_)
      rw [CharClass.isLetterClass_of_isSymbolic hsym] at hl
      exact absurd hl Bool.false_ne_true
  · rw [if_neg hsym]
    split
    · next hsign =>
      rw [Bool.and_eq_true] at hsign
      exact .resumes (.signed hfirst hsign.2 hsign.1)
    · next hsign =>
      rw [Bool.and_eq_true, not_and] at hsign
      refine .closes (.symbol hfirst hs (absurd · hsym) fun hl => ?_)
      exact eq_false_of_ne_true (hsign hl)

theorem transition_openMarked {p : Pending} (hc : CharClass.of c = .singleQuote)
    (hwidth : p.width cursor.position = 1) :
    Transition cursor c (.word p) (openMarked cursor p) := by
  have hlt : p.start < cursor.size := by
    have hsize := cursor.position_le_size
    unfold Pending.width at hwidth
    omega
  obtain ⟨mark, hmark⟩ := Cursor.exists_charAt? hlt
  simp only [openMarked, hmark, Option.any_some, Bool.or_false, Bool.or_true]
  cases hb : CharClass.isBinaryMark mark with
  | true => exact .resumes (.binaryQuoted hc hwidth hmark hb)
  | false =>
    cases hx : CharClass.isHexMark mark with
    | true => exact .resumes (.hexQuoted hc hwidth hmark hx)
    | false => exact .resumes (.unknownQuoted hc hwidth hmark hb hx)

theorem transition_resumeWord (p : Pending) :
    Transition cursor c (.word p) (resumeWord cursor p c) := by
  simp only [resumeWord]
  split
  case h_1 hc | h_2 hc | h_3 hc | h_4 hc => exact .resumes (.word (by rw [hc]; decide))
  case h_5 hc =>
    split
    · next hq => exact .closes (.predicate hq)
    · next hq =>
      have hquote : CharClass.of c ≠ .singleQuote := by
        rw [hc]
        decide
      exact .closes (.word (by rw [hc]; rfl) hq (absurd · hquote))
  case h_6 hc | h_7 hc => exact .resumes (.illegalInWord (by rw [hc]; decide))
  case h_8 hc =>
    have hq : c ≠ '?' := by
      rintro rfl
      exact absurd hc (by decide)
    split
    · next hwidth => exact transition_openMarked hc hwidth
    · next hwidth => exact .closes (.word (by rw [hc]; rfl) hq fun _ => hwidth)
  case h_9 hsign hdigit hcapital hsmall hdem hpunct hother hsingle =>
    have hq : c ≠ '?' := by
      rintro rfl
      exact hdem rfl
    refine .closes (.word ?_ hq (absurd · hsingle))
    cases hc : CharClass.of c <;> simp_all [continuesWord]

theorem transition_letterInNumber {p : Pending} {radix : Radix}
    (hc : (CharClass.of c).isLetterClass = true) :
    Transition cursor c (.number p radix) (letterInNumber cursor p radix c) := by
  have hletter : IsAlphanumeric c := .inr hc
  unfold letterInNumber
  split
  · next h =>
    rw [Bool.and_eq_true] at h
    exact .resumes (.binaryMark h.1 h.2)
  split
  · next h =>
    rw [Bool.and_eq_true] at h
    exact .resumes (.hexMark h.1 h.2)
  split
  · next h =>
    rw [Bool.and_eq_true, decide_eq_true_eq] at h
    obtain ⟨rfl, hx⟩ := h
    exact .resumes (.digit hletter hx)
  · next hb hx hh =>
    have hillegal : radix.accepts c = false := by
      refine eq_false_of_ne_true fun hlegal => hh ?_
      obtain rfl := Radix.eq_hexadecimal_of_accepts hlegal hc
      exact hlegal
    refine .resumes (.illegalDigit hletter hillegal fun hzero => ?_)
    simpa [hzero] using And.intro hb hx

theorem transition_digitInNumber {p : Pending} {radix : Radix} (hc : CharClass.of c = .digit) :
    Transition cursor c (.number p radix) (digitInNumber cursor p radix c) := by
  have hdigit := CharClass.of_eq_digit_iff.1 hc
  unfold digitInNumber
  split
  · next h =>
    rw [Bool.and_eq_true, decide_eq_true_eq, Bool.not_eq_true'] at h
    obtain ⟨rfl, hb⟩ := h
    exact .resumes (.illegalDigit (.inl hc) hb fun _ => CharClass.unmarked_of_isDigit hdigit)
  · next h =>
    refine .resumes (.digit (.inl hc) ?_)
    cases radix with
    | decimal => exact hdigit
    | binary => simpa [Radix.accepts] using h
    | hexadecimal => simp [Radix.accepts, CharClass.isHexDigit, hdigit]

theorem transition_pointInNumber (p : Pending) (radix : Radix) (hc : c = '.') :
    Transition cursor c (.number p radix) (pointInNumber cursor p radix) := by
  simp only [pointInNumber, closeNumber_eq]
  split
  · next hint => exact .handsOver (.fraction hc hint)
  · next hint =>
    split
    · next hrange => exact .closes (.range hc hrange.1 hrange.2)
    · next hrange =>
      exact .handsOver (.secondPoint hc (eq_false_of_ne_true hint) (not_and.1 hrange))

/-- A parenthesis inside a repetend is left to the next lexeme. -/
theorem transition_openRepetend (p : Pending) (radix : Radix) (hc : c = '(') :
    Transition cursor c (.number p radix) (openRepetend cursor p radix) := by
  simp only [openRepetend, leaveNumber, closeNumber_eq]
  split
  case h_1 hcat => exact .handsOver (.repetend hc hcat)
  case h_2 hcat =>
    subst hc
    exact .closes (.number (by unfold IsAlphanumeric; decide) (by decide) (by decide)
      (fun _ => hcat) (absurd · (by decide)))
  case h_3 hfraction hrepetend => exact .handsOver (.pointless hc hfraction hrepetend)

theorem transition_resumeNumber (p : Pending) (radix : Radix) :
    Transition cursor c (.number p radix) (resumeNumber cursor p radix c) := by
  simp only [resumeNumber, leaveNumber, closeNumber_eq]
  split
  case h_1 hc => exact transition_digitInNumber hc
  case h_2 hc | h_3 hc => exact transition_letterInNumber (by rw [hc]; rfl)
  case h_4 hc =>
    have halpha : ¬IsAlphanumeric c := by simp [IsAlphanumeric, hc, CharClass.isLetterClass]
    split
    · next hpoint => exact transition_pointInNumber p radix hpoint
    · next hpoint =>
      split
      · next hleft => exact transition_openRepetend p radix hleft
      · next hleft =>
        split
        · next hright => exact .closes (.repetend hright.1 hright.2)
        · next hright =>
          exact .closes (.number halpha (by rw [hc]; decide) hpoint (absurd · hleft)
            (not_and.1 hright))
  case h_5 hc | h_6 hc => exact .closes (.numberGap (by rw [hc]; decide))
  case h_7 hdigit hcapital hsmall hdem hsign hpunct =>
    have hne : c ≠ '.' ∧ c ≠ '(' ∧ c ≠ ')' := by
      refine ⟨?_, ?_, ?_⟩ <;> rintro rfl <;> exact hdem rfl
    refine .closes (.number ?_ ?_ hne.1 (absurd · hne.2.1) (absurd · hne.2.2))
    · cases hc : CharClass.of c <;> simp_all [IsAlphanumeric, CharClass.isLetterClass]
    · simp only [List.mem_cons, List.not_mem_nil, or_false, not_or]
      exact ⟨hsign, hpunct⟩

theorem transition_resumeDoubleQuoted (p : Pending) :
    Transition cursor c (.doubleQuoted p) (resumeDoubleQuoted cursor p c) := by
  unfold resumeDoubleQuoted
  split
  · next h => exact .closes (.doubleQuoted h.1 h.2)
  · next h =>
    refine .resumes (.doubleQuoted fun hc => ?_)
    exact Decidable.not_not.1 (not_and.1 h hc)

theorem transition_resumeSingleQuoted (p : Pending) :
    Transition cursor c (.singleQuoted p) (resumeSingleQuoted cursor p c) := by
  unfold resumeSingleQuoted
  split
  · next h => exact .resumes (.singleQuoted h)
  · next h =>
    have hc : c = '\'' := Decidable.not_not.1 h
    split
    · next hnext => exact .resumes (.doubledQuote hc hnext)
    · next hnext => exact .closes (.singleQuoted hc hnext)

/-- Every transition is one of the list. In documentation there is none: it ends the line. -/
theorem transition_step {mode : Mode} (h : mode.Describes cursor) (hc : cursor.current? = some c) :
    Transition cursor c mode (step mode cursor c) := by
  cases mode with
  | demarcated => exact transition_openLexeme true
  | undemarcated => exact transition_openLexeme false
  | whitespace p => exact transition_resumeWhitespace p
  | symbol p => exact transition_resumeSymbol h
  | word p => exact transition_resumeWord p
  | number p radix => exact transition_resumeNumber p radix
  | doubleQuoted p => exact transition_resumeDoubleQuoted p
  | singleQuoted p => exact transition_resumeSingleQuoted p
  | documentation => exact absurd rfl (h.ne_documentation hc)

/-- What is put out at the end of the line for the token under construction. -/
inductive Finishes (cursor : Cursor) : Mode → List Fault → Token → Prop
  | whitespace {p : Pending} :
      Finishes cursor (.whitespace p) [] (p.token cursor cursor.size cursor.size)
  | symbol {p : Pending} {first : Char} {s : Symbol} (hfirst : cursor.charAt? p.start = some first)
      (hs : Symbol.ofChar? first = some s) :
      Finishes cursor (.symbol p) [] (.ofSymbol s p.start cursor.size)
  | word {p : Pending} : Finishes cursor (.word p) [] (p.token cursor cursor.size cursor.size)
  | number {p : Pending} {radix : Radix} :
      Finishes cursor (.number p radix) (closingFaults p cursor.size)
        (closedNumber cursor p cursor.size)
  | doubleQuoted {p : Pending} :
      Finishes cursor (.doubleQuoted p) [] (p.token cursor cursor.size cursor.size)
  | singleQuoted {p : Pending} :
      Finishes cursor (.singleQuoted p) [] (p.token cursor cursor.size cursor.size)

/-- The end of the line closes the token under construction, if there is one. -/
theorem finishes_finish {mode : Mode} (h : mode.Describes cursor)
    (hend : cursor.position = cursor.size) :
    (mode.pending? = none ∧ finish mode cursor = .empty) ∨
      ∃ faults t, Finishes cursor mode faults t ∧ finish mode cursor = ⟨[t], faults⟩ := by
  cases mode with
  | demarcated | undemarcated | documentation => exact .inl ⟨rfl, rfl⟩
  | whitespace p => exact .inr ⟨_, _, .whitespace, rfl⟩
  | word p => exact .inr ⟨_, _, .word, rfl⟩
  | number p radix => exact .inr ⟨_, _, .number, closeNumber_eq cursor p cursor.size⟩
  | doubleQuoted p => exact .inr ⟨_, _, .doubleQuoted, rfl⟩
  | singleQuoted p => exact .inr ⟨_, _, .singleQuoted, rfl⟩
  | symbol p =>
    obtain ⟨first, s, hfirst, htext, hs, -⟩ := h.exists_held
    have hclose := closeSymbol_eq htext hs
    rw [hend] at hclose
    exact .inr ⟨_, _, .symbol hfirst hs, congrArg Prod.fst hclose⟩

end

end LineLexer.Scan
