import LineLexer.Indentation
import LineLexer.Proofs.CharClass
import LineLexer.Proofs.Rows
import LineLexer.Proofs.Trimming
import Mathlib.Data.List.Forall2

/-!
# Texts of an indentation

Reading an indentation takes the blanks off a text and then tells apart four kinds of word: the one
for the tab, the widths from 1 to 255, the width zero, and everything else. `Indentation.Reading`
has one case for each of them, and the cases exclude each other, so that they say exactly what is
read: `Indentation.parse_eq_iff`.

A width may have any number of zeros in front, so the length of a text says nothing about its value.
Reading it into a single byte gives up at the first digit with which the value does not fit any
more. No later digit could mend that, so what is accepted are again the numbers up to 255:
`Indentation.readByte?_eq_some_iff`.

* `Indentation.NamesTab`: the word for the tab, whatever the case of its letters;
* `Indentation.Writes`: how a number may be written;
* `Indentation.pushDigit?`: one more digit behind a number in a byte;
* `Indentation.parse_exact`: what is read from a text, and that an indentation is read from its own.
-/

namespace LineLexer

namespace Indentation

/-! ## Words for the tab -/

/-- The same character, or a capital and a small letter that belong together; only the 26 letters of
ASCII do. -/
def SameLetter (c d : Char) : Prop :=
  c = d ∨ (c.isUpper = true ∧ d.toNat = c.toNat + 32) ∨
    (d.isUpper = true ∧ c.toNat = d.toNat + 32)

/-- The word for the tab, or its first letter, in capital or small letters. -/
def NamesTab (word : List Char) : Prop :=
  List.Forall₂ SameLetter word ['t', 'a', 'b'] ∨ List.Forall₂ SameLetter word ['t']

section
variable {c d : Char} {word other : List Char}

theorem isUpper_iff : c.isUpper = true ↔ 65 ≤ c.toNat ∧ c.toNat ≤ 90 :=
  decide_eq_true_iff.trans (and_congr UInt32.le_iff_toNat_le UInt32.le_iff_toNat_le)

theorem toNat_toLower (c : Char) :
    c.toLower.toNat = if c.isUpper then c.toNat + 32 else c.toNat := by
  by_cases h : c.isUpper = true
  · obtain ⟨-, hle⟩ := isUpper_iff.1 h
    have hlower : c.toLower.val = c.val + ('a'.val - 'A'.val) :=
      congrArg Char.val (dif_pos (of_decide_eq_true h))
    rw [if_pos h]
    show c.toLower.val.toNat = c.toNat + 32
    rw [hlower, UInt32.toNat_add]
    show (c.toNat + 32) % 2 ^ 32 = c.toNat + 32
    omega
  · have hsame : c.toLower = c := dif_neg fun hupper => h (decide_eq_true hupper)
    rw [if_neg h, hsame]

/-- Two characters are the same letter if they have the same small letter. -/
theorem sameLetter_iff : SameLetter c d ↔ c.toLower = d.toLower := by
  rw [← Char.toNat_inj, toNat_toLower, toNat_toLower, SameLetter, ← Char.toNat_inj]
  simp only [isUpper_iff]
  split <;> split <;> omega

theorem forall₂_sameLetter_iff :
    List.Forall₂ SameLetter word other ↔ word.map Char.toLower = other.map Char.toLower := by
  have hsame : SameLetter = fun c d => c.toLower = d.toLower := by
    funext c d
    exact propext sameLetter_iff
  rw [← List.forall₂_eq_eq_eq, List.forall₂_map_left_iff, List.forall₂_map_right_iff, hsame]

theorem isTabWord_iff : isTabWord word = true ↔ NamesTab word := by
  rw [isTabWord, Bool.or_eq_true, beq_iff_eq, beq_iff_eq, NamesTab, forall₂_sameLetter_iff,
    forall₂_sameLetter_iff]
  rfl

/-- A word that starts with this letter starts with no plus and with no digit. -/
theorem exists_cons_of_sameLetter (h : List.Forall₂ SameLetter word ('t' :: other)) :
    ∃ c rest, word = c :: rest ∧ c ≠ '+' ∧ ¬c.isDigit = true := by
  obtain ⟨c, rest, hc, -, hword⟩ := List.forall₂_cons_right_iff.1 h
  have hcode : 65 ≤ c.toNat := by
    rcases hc with rfl | ⟨hupper, -⟩ | ⟨hupper, -⟩
    · decide
    · exact (isUpper_iff.1 hupper).1
    · exact absurd hupper (by decide)
  refine ⟨c, rest, hword, ?_, ?_⟩
  · rintro rfl
    exact absurd hcode (by decide)
  · intro hdigit
    have hle : c.toNat ≤ 57 := (Char.isDigit_iff_toNat.1 hdigit).2
    omega

end

/-! ## Widths -/

/-- A number as it may be written for a width: decimal digits, at least one, perhaps with one plus
in front of them. -/
def Writes (word : List Char) (value : Nat) : Prop :=
  ∃ digits, (word = digits ∨ word = '+' :: digits) ∧ digits ≠ [] ∧
    (∀ c ∈ digits, c.isDigit = true) ∧ Nat.ofDigitChars 10 digits 0 = value

section
variable {word digits : List Char} {value : Nat} {byte next : UInt8} {c : Char}

theorem digitsValue_eq (digits : List Char) :
    digitsValue digits = Nat.ofDigitChars 10 digits 0 := by
  unfold digitsValue Nat.ofDigitChars
  congr 1
  funext value c
  rw [Nat.mul_comm]

/-- Digits do not start with a plus. -/
theorem widthDigits_eq_self (h : ∀ c ∈ digits, c.isDigit = true) : widthDigits digits = digits := by
  unfold widthDigits
  split
  · exact absurd (h '+' List.mem_cons_self) (by decide)
  · rfl

/-- The digits of a width are found behind the plus, if there is one. -/
theorem writes_iff :
    Writes word value ↔ widthDigits word ≠ [] ∧ (∀ c ∈ widthDigits word, c.isDigit = true) ∧
      Nat.ofDigitChars 10 (widthDigits word) 0 = value := by
  constructor
  · rintro ⟨digits, rfl | rfl, hne, hdigits, hvalue⟩
    · rw [widthDigits_eq_self hdigits]
      exact ⟨hne, hdigits, hvalue⟩
    · exact ⟨hne, hdigits, hvalue⟩
  · intro h
    refine ⟨widthDigits word, ?_, h⟩
    unfold widthDigits
    split
    · exact .inr rfl
    · exact .inl rfl

/-- A width is read from every text that writes it, however long, and from no other. -/
theorem parseWidth?_eq_some_iff {width : { width : Nat // width ≤ 255 }} :
    parseWidth? word = some width ↔ Writes word width := by
  rw [writes_iff, ← digitsValue_eq]
  unfold parseWidth?
  dsimp only
  constructor
  · intro h
    split at h
    · next hform =>
      split at h
      · cases h
        exact ⟨hform.1, List.all_eq_true.1 hform.2, rfl⟩
      · cases h
    · cases h
  · rintro ⟨hne, hdigits, hvalue⟩
    have hsmall : digitsValue (widthDigits word) ≤ 255 := by
      rw [hvalue]
      exact width.property
    rw [if_pos ⟨hne, List.all_eq_true.2 hdigits⟩, dif_pos hsmall]
    exact congrArg some (Subtype.ext hvalue)

theorem parseWidth?_eq_none_iff :
    parseWidth? word = none ↔ ∀ value ≤ 255, ¬Writes word value := by
  rw [Option.eq_none_iff_forall_ne_some]
  constructor
  · intro h value hle hwrites
    exact h ⟨value, hle⟩ (parseWidth?_eq_some_iff.2 hwrites)
  · intro h width hsome
    exact h width width.property (parseWidth?_eq_some_iff.1 hsome)

/-! ## Widths, digit by digit -/

/-- A number as a byte, unless it is too large for one. -/
def byte? (n : Nat) : Option UInt8 :=
  if n ≤ 255 then some (.ofNat n) else none

/-- One more digit behind the number in a byte. There is none if the character is no digit, or if
the multiplication or the addition overflows. -/
def pushDigit? (byte : UInt8) (c : Char) : Option UInt8 :=
  if c.isDigit then do
    let shifted ← byte? (byte.toNat * 10)
    byte? (shifted.toNat + (c.toNat - '0'.toNat))
  else none

/-- Reads a width into a byte, digit by digit, and gives up as soon as one does not fit. -/
def readByte? (word : List Char) : Option UInt8 :=
  if widthDigits word = [] then none else (widthDigits word).foldlM pushDigit? 0

theorem toNat_ofNat {n : Nat} (h : n ≤ 255) : (UInt8.ofNat n).toNat = n :=
  UInt8.toNat_ofNat_of_lt' (Nat.lt_succ_of_le h)

theorem byte?_eq_some_iff {n : Nat} : byte? n = some byte ↔ n = byte.toNat := by
  have hbound := byte.toNat_lt
  unfold byte?
  split
  · next hle =>
    rw [Option.some.injEq, ← UInt8.toNat_inj, toNat_ofNat hle]
  · constructor
    · intro h
      cases h
    · intro h
      omega

/-- A digit is taken exactly if the number with it fits into a byte. -/
theorem pushDigit?_eq_some_iff :
    pushDigit? byte c = some next ↔
      c.isDigit = true ∧ 10 * byte.toNat + (c.toNat - '0'.toNat) = next.toNat := by
  unfold pushDigit?
  split
  · next hdigit =>
    rw [Option.bind_eq_bind, Option.bind_eq_some_iff]
    constructor
    · rintro ⟨shifted, hshifted, hnext⟩
      rw [byte?_eq_some_iff] at hshifted hnext
      refine ⟨hdigit, ?_⟩
      omega
    · rintro ⟨-, hnext⟩
      have hbound := next.toNat_lt
      -- the multiplication cannot overflow, as the digit only adds to it
      have hshifted : (UInt8.ofNat (byte.toNat * 10)).toNat = byte.toNat * 10 :=
        toNat_ofNat (by omega)
      refine ⟨UInt8.ofNat (byte.toNat * 10), byte?_eq_some_iff.2 hshifted.symm, ?_⟩
      rw [byte?_eq_some_iff, hshifted]
      omega
  · next hdigit =>
    constructor
    · intro h
      cases h
    · intro h
      exact absurd h.1 hdigit

/-- Digits make a number no smaller. -/
theorem le_ofDigitChars (digits : List Char) (value : Nat) :
    value ≤ Nat.ofDigitChars 10 digits value := by
  induction digits generalizing value with
  | nil => exact Nat.le_refl value
  | cons c digits ih =>
    rw [Nat.ofDigitChars_cons]
    have hnext := ih (10 * value + (c.toNat - '0'.toNat))
    omega

/-- Digits are taken one after the other exactly if the number with all of them fits into a byte. -/
theorem foldlM_pushDigit?_eq_some_iff :
    digits.foldlM pushDigit? byte = some next ↔
      (∀ c ∈ digits, c.isDigit = true) ∧
        Nat.ofDigitChars 10 digits byte.toNat = next.toNat := by
  induction digits generalizing byte with
  | nil =>
    rw [List.foldlM_nil, Nat.ofDigitChars_nil, UInt8.toNat_inj]
    simp
  | cons c digits ih =>
    rw [List.foldlM_cons, Option.bind_eq_bind, Option.bind_eq_some_iff, List.forall_mem_cons,
      Nat.ofDigitChars_cons]
    constructor
    · rintro ⟨middle, hmiddle, hnext⟩
      obtain ⟨hdigit, hvalue⟩ := pushDigit?_eq_some_iff.1 hmiddle
      obtain ⟨hdigits, htotal⟩ := ih.1 hnext
      refine ⟨⟨hdigit, hdigits⟩, ?_⟩
      rw [hvalue, htotal]
    · rintro ⟨⟨hdigit, hdigits⟩, htotal⟩
      -- what fits in the end fits on the way
      have hbound := next.toNat_lt
      have hle := le_ofDigitChars digits (10 * byte.toNat + (c.toNat - '0'.toNat))
      have hsmall : 10 * byte.toNat + (c.toNat - '0'.toNat) ≤ 255 := by omega
      have hvalue := toNat_ofNat hsmall
      refine ⟨_, pushDigit?_eq_some_iff.2 ⟨hdigit, hvalue.symm⟩, ih.2 ⟨hdigits, ?_⟩⟩
      rw [hvalue, htotal]

theorem readByte?_eq_some_iff : readByte? word = some byte ↔ Writes word byte.toNat := by
  rw [writes_iff]
  unfold readByte?
  split
  · next hnil =>
    constructor
    · intro h
      cases h
    · intro h
      exact absurd hnil h.1
  · next hne =>
    rw [foldlM_pushDigit?_eq_some_iff]
    exact (and_iff_right hne).symm

/-- Reading a width as a number and reading it into a byte give the same. -/
theorem parseWidth?_eq_readByte? :
    (parseWidth? word).map Subtype.val = (readByte? word).map UInt8.toNat := by
  apply Option.ext
  intro n
  rw [Option.map_eq_some_iff, Option.map_eq_some_iff]
  constructor
  · rintro ⟨width, hwidth, rfl⟩
    have hbyte : (UInt8.ofNat width.val).toNat = width.val := toNat_ofNat width.property
    refine ⟨UInt8.ofNat width.val, readByte?_eq_some_iff.2 ?_, hbyte⟩
    rw [hbyte]
    exact parseWidth?_eq_some_iff.1 hwidth
  · rintro ⟨byte, hbyte, rfl⟩
    have hsmall : byte.toNat ≤ 255 := Nat.le_of_lt_succ byte.toNat_lt
    exact ⟨⟨byte.toNat, hsmall⟩, parseWidth?_eq_some_iff.2 (readByte?_eq_some_iff.1 hbyte), rfl⟩

end

/-! ## The four kinds of words -/

theorem Writes.unique {word : List Char} {value other : Nat} (h : Writes word value)
    (hother : Writes word other) : value = other := by
  obtain ⟨-, -, hvalue⟩ := writes_iff.1 h
  obtain ⟨-, -, hvalue'⟩ := writes_iff.1 hother
  rw [← hvalue, hvalue']

theorem NamesTab.not_writes {word : List Char} (h : NamesTab word) (value : Nat) :
    ¬Writes word value := by
  obtain ⟨c, rest, rfl, hplus, hdigit⟩ :=
    h.elim exists_cons_of_sameLetter exists_cons_of_sameLetter
  rintro ⟨digits, rfl | hword, -, hdigits, -⟩
  · exact hdigit (hdigits c List.mem_cons_self)
  · exact hplus (List.cons.inj hword).1

/-- What is read from a word without blanks at its ends. -/
inductive Reading (word : List Char) : Except IndentationError Indentation → Prop where
  | tab (h : NamesTab word) : Reading word (.ok .tab)
  | spaces {width : Nat} (positive : 0 < width) (small : width ≤ 255) (h : Writes word width) :
    Reading word (.ok (.spaces width positive small))
  | zeroWidth (h : Writes word 0) : Reading word (.error .zeroWidth)
  | invalid (htab : ¬NamesTab word) (hwidth : ∀ width ≤ 255, ¬Writes word width) :
    Reading word (.error (.invalid (String.ofList word)))

/-- The four kinds exclude each other. -/
theorem Reading.unique {word : List Char} {result other : Except IndentationError Indentation}
    (h : Reading word result) (hother : Reading word other) : result = other := by
  cases h with
  | tab htab =>
    cases hother with
    | tab => rfl
    | spaces _ _ hwrites => exact absurd hwrites (htab.not_writes _)
    | zeroWidth hwrites => exact absurd hwrites (htab.not_writes _)
    | invalid hno => exact absurd htab hno
  | spaces positive small hwrites =>
    cases hother with
    | tab htab => exact absurd hwrites (htab.not_writes _)
    | spaces _ _ hwrites' =>
      cases hwrites.unique hwrites'
      rfl
    | zeroWidth hwrites' => exact absurd (hwrites.unique hwrites') positive.ne'
    | invalid _ hno => exact absurd hwrites (hno _ small)
  | zeroWidth hwrites =>
    cases hother with
    | tab htab => exact absurd hwrites (htab.not_writes _)
    | spaces positive _ hwrites' => exact absurd (hwrites'.unique hwrites) positive.ne'
    | zeroWidth => rfl
    | invalid _ hno => exact absurd hwrites (hno 0 (Nat.zero_le 255))
  | invalid htab hno =>
    cases hother with
    | tab htab' => exact absurd htab' htab
    | spaces _ small hwrites => exact absurd hwrites (hno _ small)
    | zeroWidth hwrites => exact absurd hwrites (hno 0 (Nat.zero_le 255))
    | invalid => rfl

theorem reading_parse (text : String) : Reading (Text.trim text.toList) (parse text) := by
  unfold parse
  by_cases htab : NamesTab (Text.trim text.toList)
  · rw [if_pos (isTabWord_iff.2 htab)]
    exact .tab htab
  · rw [if_neg fun h => htab (isTabWord_iff.1 h)]
    split
    · next width hwidth =>
      have hwrites := parseWidth?_eq_some_iff.1 hwidth
      unfold ofWidth
      split
      · next positive => exact .spaces positive width.property hwrites
      · next hzero =>
        rw [Nat.eq_zero_of_not_pos hzero] at hwrites
        exact .zeroWidth hwrites
    · next hnone => exact .invalid htab (parseWidth?_eq_none_iff.1 hnone)

/-- The cases of `Reading` say exactly what is read. -/
theorem parse_eq_iff {text : String} {result : Except IndentationError Indentation} :
    parse text = result ↔ Reading (Text.trim text.toList) result := by
  constructor
  · rintro rfl
    exact reading_parse text
  · exact (reading_parse text).unique

/-! ## Writing and reading -/

theorem isBlank_of_isDigit {c : Char} (h : c.isDigit = true) : Text.isBlank c = false := by
  have hge : 48 ≤ c.toNat := (Char.isDigit_iff_toNat.1 h).1
  have hle : c.toNat ≤ 57 := (Char.isDigit_iff_toNat.1 h).2
  apply eq_false_of_ne_true
  intro hblank
  simp only [Text.isBlank, CharClass.inRange_iff, Bool.or_eq_true, beq_iff_eq] at hblank
  omega

theorem writes_toString (n : Nat) : Writes (toString n).toList n := by
  refine ⟨(toString n).toList, .inl rfl, Text.toList_toString_ne_nil n,
    fun c => Text.isDigit_of_mem_toString, ?_⟩
  rw [Text.toList_toString]
  exact Nat.ofDigitChars_ten_toDigits

/-- An indentation is read from the text that is written for it. -/
theorem parse_text (indentation : Indentation) : parse indentation.text = .ok indentation := by
  rw [parse_eq_iff]
  cases indentation with
  | tab => exact .tab (isTabWord_iff.1 (by decide))
  | spaces width positive small =>
    have htrim : Text.trim (toString width).toList = (toString width).toList :=
      Text.trim_eq_self fun c hc => isBlank_of_isDigit (Text.isDigit_of_mem_toString hc)
    apply Reading.spaces positive small
    rw [text, htrim]
    exact writes_toString width

/-- Of a text, what counts is the word that is left without the blanks at its ends. It is the tab, a
number of spaces or the width zero exactly if it says so, and in every other case it is given back
as invalid: other words, numbers above 255, a plus alone, and no word at all. No number is so long
that reading it into a byte would make a difference. And each indentation is read from its own
text. -/
theorem parse_exact (text : String) (indentation : Indentation) :
    let word := Text.trim text.toList
    (∀ core, Text.Trims text.toList core ↔ core = word) ∧
      (parse text = .ok .tab ↔ NamesTab word) ∧
      (∀ width, (∃ positive small, parse text = .ok (.spaces width positive small)) ↔
        Writes word width ∧ 1 ≤ width ∧ width ≤ 255) ∧
      (parse text = .error .zeroWidth ↔ Writes word 0) ∧
      (∀ quoted, parse text = .error (.invalid quoted) ↔
        quoted = String.ofList word ∧ ¬NamesTab word ∧ ∀ width ≤ 255, ¬Writes word width) ∧
      (parseWidth? word).map Subtype.val = (readByte? word).map UInt8.toNat ∧
      parse indentation.text = .ok indentation := by
  intro word
  refine ⟨fun core => Text.trims_iff, ?tab, ?spaces, ?zero, ?invalid, parseWidth?_eq_readByte?,
    parse_text indentation⟩
  case tab =>
    rw [parse_eq_iff]
    constructor
    · rintro ⟨⟩
      assumption
    · exact .tab
  case spaces =>
    intro width
    simp only [parse_eq_iff]
    constructor
    · rintro ⟨positive, small, ⟨⟩⟩
      exact ⟨‹_›, positive, small⟩
    · rintro ⟨hwrites, positive, small⟩
      exact ⟨positive, small, .spaces positive small hwrites⟩
  case zero =>
    rw [parse_eq_iff]
    constructor
    · rintro ⟨⟩
      assumption
    · exact .zeroWidth
  case invalid =>
    intro quoted
    rw [parse_eq_iff]
    constructor
    · rintro ⟨⟩
      exact ⟨rfl, ‹_›, ‹_›⟩
    · rintro ⟨rfl, htab, hwidth⟩
      exact .invalid htab hwidth

end Indentation

end LineLexer
