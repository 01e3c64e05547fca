import LineLexer.Proofs.Kind
import LineLexer.Proofs.Passage
import LineLexer.Proofs.Verdict

/-!
# The grammar of number literals

`NumberLiteral` is the grammar of number literals, with the tokens of each of them. A line is read
as parts of a number and nothing else, without a fault, exactly if it is a number literal, and the
tokens are then those of the grammar: `tokenize_number`.

What the scan knows inside a literal is `NumberPart`. From a literal to its tokens, the scan is
followed along the text (`NumberPart.passes`). From the tokens to the literal, `Mode.Spells` is kept
by every transition, or else something has come up that cannot be undone: a fault, a token that is
no part of a number, or a token of another kind under construction (`Output.Strays`, `Deviates`).

* `IntegerLiteral`, `NumberLiteral`: the grammar, in the characters that are written;
* `Radix.accepts_iff`: the lexer admits the digits of the grammar;
* `NumberPart.digit`, `NumberPart.point`, ..: how a literal goes on;
* `scan_of_numberLiteral`: the scan of a literal;
* `Transition.spells`, `Transition.deviates`, `Reaches.spells`: one transition and a whole run.
-/

namespace LineLexer.Scan

/-! ## The grammar -/

/-- The category of integers of the radix. -/
def Radix.integer : Radix → Category
  | .decimal => .integer
  | .binary => .binaryInteger
  | .hexadecimal => .hexadecimalInteger

/-- The digits of a radix, in either case. -/
def Radix.IsDigit : Radix → Char → Prop
  | .decimal, c => '0' ≤ c ∧ c ≤ '9'
  | .binary, c => c = '0' ∨ c = '1'
  | .hexadecimal, c => '0' ≤ c ∧ c ≤ '9' ∨ 'A' ≤ c ∧ c ≤ 'F' ∨ 'a' ≤ c ∧ c ≤ 'f'

/-- The lexer admits the digits of the radix and nothing else. -/
theorem Radix.accepts_iff {radix : Radix} {c : Char} :
    radix.accepts c = true ↔ radix.IsDigit c := by
  cases radix with
  | decimal => exact CharClass.isDigit_iff
  | binary => exact CharClass.isBinaryDigit_iff
  | hexadecimal => exact CharClass.isHexDigit_iff

/-- Every character is a digit of the radix. -/
def Radix.Legal (radix : Radix) (digits : List Char) : Prop :=
  ∀ c ∈ digits, radix.IsDigit c

/-- The text of an integer and its digits. Behind a mark there need not be any. -/
inductive IntegerLiteral : Radix → List Char → List Char → Prop
  | decimal {digits : List Char} (nonempty : digits ≠ []) (legal : Radix.decimal.Legal digits) :
      IntegerLiteral .decimal digits digits
  | binary {mark : Char} {digits : List Char} (marked : mark = 'b' ∨ mark = 'B')
      (legal : Radix.binary.Legal digits) : IntegerLiteral .binary ('0' :: mark :: digits) digits
  | hexadecimal {mark : Char} {digits : List Char} (marked : mark = 'x' ∨ mark = 'X')
      (legal : Radix.hexadecimal.Legal digits) :
      IntegerLiteral .hexadecimal ('0' :: mark :: digits) digits

/-- The token of a part of a number. -/
def numeral (category : Category) (digits : List Char) (start stop : Nat) : Token :=
  ⟨category, .text (String.ofList digits), start, stop, false⟩

/-- The text of a number literal and its tokens. -/
inductive NumberLiteral : List Char → List Token → Prop
  | integer {radix : Radix} {text digits : List Char} (h : IntegerLiteral radix text digits) :
      NumberLiteral text [numeral radix.integer digits 0 text.length]
  | fraction {radix : Radix} {text digits fraction : List Char}
      (h : IntegerLiteral radix text digits) (hfraction : radix.Legal fraction) :
      NumberLiteral (text ++ '.' :: fraction)
        [numeral radix.integer digits 0 text.length,
          numeral .fraction fraction text.length (text ++ '.' :: fraction).length]
  | repetend {radix : Radix} {text digits fraction repetend : List Char}
      (h : IntegerLiteral radix text digits) (hfraction : radix.Legal fraction)
      (hrepetend : radix.Legal repetend) :
      NumberLiteral (text ++ '.' :: fraction ++ '(' :: repetend ++ [')'])
        [numeral radix.integer digits 0 text.length,
          numeral .fraction fraction text.length (text ++ '.' :: fraction).length,
          numeral .repetend repetend (text ++ '.' :: fraction).length
            (text ++ '.' :: fraction ++ '(' :: repetend ++ [')']).length]

/-- The part of a number literal at the end of a text, and the tokens in front of it. -/
inductive NumberPart : Pending → Radix → List Char → List Token → Prop
  | integer {radix : Radix} {text digits : List Char} (h : IntegerLiteral radix text digits) :
      NumberPart ⟨radix.integer, 0, radix.integer.lead, false⟩ radix text []
  | fraction {radix : Radix} {text digits fraction : List Char}
      (h : IntegerLiteral radix text digits) (hfraction : radix.Legal fraction) :
      NumberPart ⟨.fraction, text.length, 1, false⟩ radix (text ++ '.' :: fraction)
        [numeral radix.integer digits 0 text.length]
  | repetend {radix : Radix} {text digits fraction repetend : List Char}
      (h : IntegerLiteral radix text digits) (hfraction : radix.Legal fraction)
      (hrepetend : radix.Legal repetend) :
      NumberPart ⟨.repetend, (text ++ '.' :: fraction).length, 1, false⟩ radix
        (text ++ '.' :: fraction ++ '(' :: repetend)
        [numeral radix.integer digits 0 text.length,
          numeral .fraction fraction text.length (text ++ '.' :: fraction).length]

section
variable {p : Pending} {radix : Radix} {text digits : List Char} {tokens : List Token} {c : Char}

theorem Radix.Legal.nil (radix : Radix) : radix.Legal [] :=
  fun _ hc => nomatch hc

theorem Radix.Legal.concat (h : radix.Legal digits) (hc : radix.accepts c = true) :
    radix.Legal (digits ++ [c]) := by
  intro d hd
  rcases List.mem_append.1 hd with hd | hd
  · exact h d hd
  · rw [List.mem_singleton.1 hd]
    exact Radix.accepts_iff.1 hc

theorem Radix.isInteger_integer (radix : Radix) : radix.integer.isInteger = true := by
  cases radix <;> rfl

theorem Radix.integer_ne (radix : Radix) :
    radix.integer ≠ .fraction ∧ radix.integer ≠ .repetend := by
  cases radix <;> decide

/-- Digits are digits and letters. -/
theorem Radix.isAlphanumeric_of_accepts (h : radix.accepts c = true) : IsAlphanumeric c := by
  cases radix with
  | decimal => exact .inl (CharClass.of_eq_digit_iff.2 h)
  | binary => exact .inl (CharClass.of_eq_digit_iff.2 (CharClass.isDigit_of_isBinaryDigit h))
  | hexadecimal => exact CharClass.of_isHexDigit h

theorem IntegerLiteral.concat (h : IntegerLiteral radix text digits)
    (hc : radix.accepts c = true) : IntegerLiteral radix (text ++ [c]) (digits ++ [c]) := by
  cases h with
  | decimal hnonempty hlegal => exact .decimal (by simp) (hlegal.concat hc)
  | binary hmarked hlegal => exact .binary hmarked (hlegal.concat hc)
  | hexadecimal hmarked hlegal => exact .hexadecimal hmarked (hlegal.concat hc)

/-! ## Tokens of parts -/

theorem IntegerLiteral.literal_eq (h : IntegerLiteral radix text digits) (stop : Nat) :
    Pending.literal ⟨radix.integer, 0, radix.integer.lead, false⟩ text stop =
      numeral radix.integer digits 0 stop := by
  have hdrop : text.drop radix.integer.lead = digits := by cases h <;> rfl
  rw [Pending.literal, Nat.zero_add, hdrop]
  rfl

theorem literal_behind (category : Category) (lead : Char) (text digits : List Char) (stop : Nat) :
    Pending.literal ⟨category, text.length, 1, false⟩ (text ++ lead :: digits) stop =
      numeral category digits text.length stop := by
  have hdrop : (text ++ lead :: digits).drop (text.length + 1) = digits := by
    rw [← List.drop_drop, List.drop_left, List.drop_one, List.tail_cons]
  rw [Pending.literal, hdrop]
  rfl

/-! ## How a literal goes on -/

theorem NumberPart.isNumber (h : NumberPart p radix text tokens) : p.category.isNumber = true := by
  cases h with
  | @integer radix => cases radix <;> rfl
  | fraction | repetend => rfl

/-- A digit goes on with the part. -/
theorem NumberPart.digit (h : NumberPart p radix text tokens) (hc : radix.accepts c = true) :
    NumberPart p radix (text ++ [c]) tokens := by
  cases h with
  | integer h => exact .integer (h.concat hc)
  | fraction h hfraction =>
    rw [List.append_assoc]
    exact .fraction h (hfraction.concat hc)
  | repetend h hfraction hrepetend =>
    rw [List.append_assoc]
    exact .repetend h hfraction (hrepetend.concat hc)

/-- A point behind an integer opens a fraction. -/
theorem NumberPart.point (h : NumberPart p radix text tokens)
    (hinteger : p.category.isInteger = true) :
    NumberPart ⟨.fraction, text.length, 1, false⟩ radix (text ++ ['.'])
      (tokens ++ [p.literal text text.length]) := by
  cases h with
  | integer h =>
    rw [h.literal_eq]
    exact .fraction h (.nil radix)
  | fraction | repetend => exact nomatch hinteger

/-- A parenthesis behind a fraction opens a repetend. -/
theorem NumberPart.parenthesis (h : NumberPart p radix text tokens)
    (hfraction : p.category = .fraction) :
    NumberPart ⟨.repetend, text.length, 1, false⟩ radix (text ++ ['('])
      (tokens ++ [p.literal text text.length]) := by
  cases h with
  | @integer radix =>
    exact absurd hfraction radix.integer_ne.1
  | fraction h hlegal =>
    rw [literal_behind]
    exact .repetend h hlegal (.nil radix)
  | repetend => exact nomatch hfraction

/-- Only a decimal integer, without a part in front of it, has the category of integers. -/
theorem NumberPart.eq_of_integer (h : NumberPart p radix text tokens)
    (hinteger : p.category = .integer) : p = ⟨.integer, 0, 0, false⟩ ∧ tokens = [] := by
  cases h with
  | @integer radix =>
    cases radix with
    | decimal => exact ⟨rfl, rfl⟩
    | binary | hexadecimal => exact nomatch hinteger
  | fraction | repetend => exact nomatch hinteger

/-- An integer or a fraction can end the literal. -/
theorem NumberPart.literal (h : NumberPart p radix text tokens)
    (hrepetend : p.category ≠ .repetend) :
    NumberLiteral text (tokens ++ [p.literal text text.length]) := by
  cases h with
  | integer h =>
    rw [h.literal_eq]
    exact .integer h
  | fraction h hfraction =>
    rw [literal_behind]
    exact .fraction h hfraction
  | repetend => exact absurd rfl hrepetend

/-- A parenthesis ends the literal behind a repetend. -/
theorem NumberPart.closed (h : NumberPart p radix text tokens)
    (hrepetend : p.category = .repetend) :
    NumberLiteral (text ++ [')']) (tokens ++ [p.literal text (text.length + 1)]) := by
  cases h with
  | @integer radix =>
    exact absurd hrepetend radix.integer_ne.2
  | fraction => exact nomatch hrepetend
  | @repetend _ text _ fraction repetend h hfraction hlegal =>
    rw [literal_behind, ← List.length_singleton (a := ')'), ← List.length_append]
    exact .repetend h hfraction hlegal

/-- A literal ends with its last part, or with the parenthesis behind it. -/
theorem NumberLiteral.exists_part (h : NumberLiteral text tokens) :
    (∃ p radix front, NumberPart p radix text front ∧ p.category ≠ .repetend ∧
      tokens = front ++ [p.literal text text.length]) ∨
    ∃ p radix body front, text = body ++ [')'] ∧ NumberPart p radix body front ∧
      p.category = .repetend ∧ tokens = front ++ [p.literal body (body.length + 1)] := by
  cases h with
  | @integer radix _ digits h =>
    exact .inl ⟨_, radix, [], .integer h, radix.integer_ne.2, by rw [h.literal_eq]; rfl⟩
  | fraction h hfraction =>
    exact .inl ⟨_, _, _, .fraction h hfraction, nofun, by rw [literal_behind]; rfl⟩
  | repetend h hfraction hrepetend =>
    refine .inr ⟨_, _, _, _, rfl, .repetend h hfraction hrepetend, rfl, ?_⟩
    rw [literal_behind, ← List.length_singleton (a := ')'), ← List.length_append]
    rfl

theorem IntegerLiteral.ne_nil (h : IntegerLiteral radix text digits) : text ≠ [] := by
  cases h with
  | decimal hnonempty => exact hnonempty
  | binary | hexadecimal => exact List.cons_ne_nil _ _

theorem NumberLiteral.ne_nil (h : NumberLiteral text tokens) : text ≠ [] := by
  cases h with
  | integer h => exact h.ne_nil
  | fraction => exact List.append_ne_nil_of_right_ne_nil _ (List.cons_ne_nil _ _)
  | repetend => exact List.append_ne_nil_of_right_ne_nil _ (List.cons_ne_nil _ _)

theorem NumberLiteral.isNumber_of_mem (h : NumberLiteral text tokens) :
    ∀ t ∈ tokens, t.category.isNumber = true := by
  have hinteger : ∀ {radix : Radix}, radix.integer.isNumber = true := by
    intro radix
    cases radix <;> rfl
  cases h <;> simp [numeral, hinteger] <;> decide

end

/-! ## From a literal to its tokens -/

section
variable {before after text digits : List Char} {tokens : List Token} {p : Pending} {radix : Radix}
  {output : Output} {c : Char}

/-- Digits go on with a part of a number. -/
theorem Passes.legal (h : Passes before (digits ++ after) (.number p radix) output)
    (hlegal : radix.Legal digits) : Passes (before ++ digits) after (.number p radix) output :=
  h.run fun c hc _ =>
    have haccepts : radix.accepts c = true := Radix.accepts_iff.2 (hlegal c hc)
    .digit (Radix.isAlphanumeric_of_accepts haccepts) haccepts

/-- A zero at the start of the line, with nothing behind it yet. -/
theorem isLoneZero_of_before {cursor : Cursor} (hbefore : cursor.before = ['0']) :
    isLoneZero cursor ⟨.integer, 0, 0, false⟩ = true := by
  have hposition : cursor.position = 1 := by
    rw [← cursor.length_before, hbefore]
    rfl
  have hchar : cursor.charAt? 0 = some '0' := by
    rw [cursor.charAt?_of_lt (by omega), hbefore]
    rfl
  simp only [isLoneZero, Pending.width, hposition, hchar]
  rfl

theorem IntegerLiteral.passes (h : IntegerLiteral radix text digits) (after : List Char) :
    Passes text after (.number ⟨radix.integer, 0, radix.integer.lead, false⟩ radix) .empty := by
  have hopen : ∀ {d : Char} {rest : List Char}, CharClass.isDigit d = true →
      Passes [d] rest (.number ⟨.integer, 0, 0, false⟩ .decimal) .empty :=
    fun hd => passes_open _ (fun start => .number ⟨.integer, start, 0, false⟩ .decimal)
      fun _ => .number (CharClass.of_eq_digit_iff.2 hd)
  cases h with
  | decimal hnonempty hlegal =>
    cases text with
    | nil => exact absurd rfl hnonempty
    | cons d digits =>
      have hfirst : CharClass.isDigit d = true :=
        CharClass.isDigit_iff.2 (hlegal d List.mem_cons_self)
      exact (hopen hfirst).legal fun e he => hlegal e (List.mem_cons_of_mem d he)
  | @binary mark _ hmarked hlegal =>
    have hzero : Passes ['0'] (mark :: (digits ++ after)) _ .empty := hopen rfl
    have hmark := hzero.take fun cursor hbefore _ _ =>
      .resumes (.binaryMark (isLoneZero_of_before hbefore) (CharClass.isBinaryMark_iff.2 hmarked))
    exact hmark.legal hlegal
  | @hexadecimal mark _ hmarked hlegal =>
    have hzero : Passes ['0'] (mark :: (digits ++ after)) _ .empty := hopen rfl
    have hmark := hzero.take fun cursor hbefore _ _ =>
      .resumes (.hexMark (isLoneZero_of_before hbefore) (CharClass.isHexMark_iff.2 hmarked))
    exact hmark.legal hlegal

/-- The token of a part that is closed or handed over. -/
theorem NumberPart.token_eq {cursor : Cursor} (h : NumberPart p radix text tokens)
    (hbefore : cursor.before = text) (stop : Nat) :
    p.token cursor cursor.position stop = p.literal text stop := by
  rw [Pending.token_eq (.inl h.isNumber), hbefore]

/-- A part is put out where the next one is opened. -/
theorem NumberPart.passes_next {category : Category} (h : NumberPart p radix text tokens)
    (hpasses : Passes text (c :: after) (.number p radix) ⟨tokens, []⟩)
    (hnext : ∀ cursor : Cursor, HandsOver cursor c (.number p radix) []
      (p.token cursor cursor.position cursor.position)
      (.number ⟨category, cursor.position, 1, false⟩ radix)) :
    Passes (text ++ [c]) after (.number ⟨category, text.length, 1, false⟩ radix)
      ⟨tokens ++ [p.literal text text.length], []⟩ :=
  hpasses.take (s := .token (p.literal text text.length)) fun cursor hbefore _ _ => by
    rw [← h.token_eq hbefore, ← hbefore, cursor.length_before]
    exact .handsOver (hnext cursor)

theorem IntegerLiteral.passes_fraction {fraction : List Char} (h : IntegerLiteral radix text digits)
    (hfraction : radix.Legal fraction) (after : List Char) :
    Passes (text ++ '.' :: fraction) after (.number ⟨.fraction, text.length, 1, false⟩ radix)
      ⟨[numeral radix.integer digits 0 text.length], []⟩ := by
  have hpoint := (NumberPart.integer h).passes_next (h.passes ('.' :: (fraction ++ after)))
    fun _ => .fraction rfl radix.isInteger_integer
  rw [h.literal_eq] at hpoint
  have hlegal := hpoint.legal hfraction
  rwa [List.append_assoc] at hlegal

/-- The scan comes by every part of a literal. -/
theorem NumberPart.passes (h : NumberPart p radix text tokens) (after : List Char) :
    Passes text after (.number p radix) ⟨tokens, []⟩ := by
  cases h with
  | integer h => exact h.passes after
  | fraction h hfraction => exact h.passes_fraction hfraction after
  | @repetend _ _ _ fraction repetend h hfraction hrepetend =>
    have hparenthesis := (NumberPart.fraction h hfraction).passes_next
      (h.passes_fraction hfraction ('(' :: (repetend ++ after))) fun _ => .repetend rfl rfl
    rw [literal_behind] at hparenthesis
    have hlegal := hparenthesis.legal hrepetend
    rwa [List.append_assoc] at hlegal

/-- At the end of the line, the last part is put out without a fault, except for a repetend. -/
theorem NumberPart.finish_eq {cursor : Cursor} (h : NumberPart p radix text tokens)
    (hrepetend : p.category ≠ .repetend) (hbefore : cursor.before = text)
    (hafter : cursor.after = []) :
    finish (.number p radix) cursor = .token (p.literal text text.length) := by
  show closeNumber cursor p cursor.size = _
  rw [closeNumber_eq, closingFaults, if_neg hrepetend, closedNumber, if_neg hrepetend,
    ← Cursor.position_eq_of_after hafter, h.token_eq hbefore, ← hbefore, cursor.length_before]
  rfl

/-- A number literal is put out as its tokens. -/
theorem scan_of_numberLiteral (h : NumberLiteral text tokens) : scan text = ⟨tokens, []⟩ := by
  rcases h.exists_part with ⟨p, radix, front, hpart, hrepetend, rfl⟩ |
    ⟨p, radix, body, front, rfl, hpart, hrepetend, rfl⟩
  · exact (hpart.passes []).scan_eq fun _ hbefore hafter _ =>
      hpart.finish_eq hrepetend hbefore hafter
  · have hclose := (hpart.passes [')']).take
      (s := .token (p.literal body (body.length + 1))) fun cursor hbefore _ _ => by
        rw [← hpart.token_eq hbefore, ← hbefore, cursor.length_before]
        exact .closes (.repetend rfl hrepetend)
    rw [hclose.scan_eq (s := .empty) fun _ _ _ _ => rfl, Output.append_empty]
    rfl

end

/-! ## From the tokens to the literal -/

/-- What has been read is a number literal so far, and has been put out as its tokens. -/
def Mode.Spells (before : List Char) (tokens : List Token) : Mode → Prop
  | .demarcated => before = [] ∧ tokens = []
  | .undemarcated => NumberLiteral before tokens
  | .number p radix => NumberPart p radix before tokens
  | _ => False

/-- What has been put out is more than the parts of a number, or has a fault. -/
inductive Output.Strays (output : Output) : Prop
  | fault (h : output.faults ≠ [])
  | token {t : Token} (ht : t ∈ output.tokens) (h : t.category.kind ≠ .number)

/-- Something has come up that is no part of a number and cannot be undone. -/
inductive Deviates (mode : Mode) (output : Output) : Prop
  | output (h : output.Strays)
  | kind {k : Kind} (hk : mode.kind? = some k) (h : k ≠ .number)

section
variable {cursor : Cursor} {c : Char} {mode next : Mode} {faults : List Fault} {t : Token} {n : Nat}
  {p : Pending} {radix : Radix} {tokens : List Token} {output more : Output} {s : Step}
  {code : List Char}

/-! ### Deviations stay -/

theorem Output.Strays.append (h : output.Strays) (more : Output) : (output ++ more).Strays := by
  cases h with
  | fault h => exact .fault (List.append_ne_nil_of_left_ne_nil h _)
  | token ht h => exact .token (List.mem_append_left _ ht) h

theorem Output.Strays.of_append (h : more.Strays) (output : Output) : (output ++ more).Strays := by
  cases h with
  | fault h => exact .fault (List.append_ne_nil_of_right_ne_nil _ h)
  | token ht h => exact .token (List.mem_append_right _ ht) h

theorem Deviates.of_append (h : Deviates mode more) (output : Output) :
    Deviates mode (output ++ more) := by
  cases h with
  | output h => exact .output (h.of_append output)
  | kind hk h => exact .kind hk h

/-- A token of another kind under construction stays one or is put out. -/
theorem Transition.deviates (h : Transition cursor c mode s) (hd : mode.Describes cursor)
    (hdeviates : Deviates mode output) : Deviates s.mode (output ++ s.output) := by
  cases hdeviates with
  | output hstrays => exact .output (hstrays.append s.output)
  | kind hk hne =>
    cases h with
    | opens | emits => exact nomatch (Mode.kind?_between _).symm.trans hk
    | resumes h =>
      obtain ⟨k', hk', hne'⟩ := h.exists_kind hk hne
      exact .kind hk' hne'
    | closes h =>
      rcases h.kind_eq hd with hkind | ⟨hkind, -⟩
      · obtain rfl := Option.some.inj (hk.symm.trans hkind)
        exact .output ((Output.Strays.token List.mem_cons_self hne).of_append output)
      · exact absurd (Option.some.inj (hk.symm.trans hkind)) hne
    | handsOver h => exact absurd (Option.some.inj (hk.symm.trans (h.kind_eq hd).1)) hne

theorem Finishes.strays (h : Finishes cursor mode faults t) (hd : mode.Describes cursor)
    (hend : cursor.position = cursor.size) (hdeviates : Deviates mode output) :
    (output ++ ⟨[t], faults⟩).Strays := by
  cases hdeviates with
  | output hstrays => exact hstrays.append _
  | kind hk hne =>
    obtain rfl := Option.some.inj (hk.symm.trans (h.kind_eq hd hend))
    exact (Output.Strays.token List.mem_cons_self hne).of_append output

/-! ### Each transition reads on or deviates -/

theorem Opens.spells {separated : Bool} (h : Opens cursor c separated faults next)
    (hc : cursor.current? = some c)
    (hspells : (Mode.between separated).Spells cursor.before tokens) :
    next.Spells (cursor.advance 1).before tokens ∨ Deviates next ⟨[], faults⟩ := by
  cases h with
  | number h =>
    cases separated with
    | true =>
      -- nothing has been read yet
      obtain ⟨hbefore, rfl⟩ := hspells
      have hposition : cursor.position = 0 := by
        rw [← cursor.length_before, hbefore]
        rfl
      have hlegal : Radix.decimal.Legal [c] :=
        (Radix.Legal.nil .decimal).concat (CharClass.of_eq_digit_iff.1 h)
      rw [Cursor.before_advance_one hc, hbefore, hposition]
      exact .inl (.integer (.decimal (List.cons_ne_nil c []) hlegal))
    | false => exact .inr (.output (.fault (List.cons_ne_nil _ _)))
  | _ => exact .inr (.kind rfl nofun)

theorem Emits.strays (h : Emits cursor c faults t next n) : Output.Strays ⟨[t], faults⟩ := by
  refine .token List.mem_cons_self fun hnumber => ?_
  rcases h.kind_eq with hkind | hkind <;> exact nomatch hkind.symm.trans hnumber

theorem Resumes.spells (h : Resumes cursor c mode faults next n) (hc : cursor.current? = some c)
    (hspells : mode.Spells cursor.before tokens) :
    next.Spells (cursor.advance n).before tokens ∨ Deviates next ⟨[], faults⟩ := by
  -- a mark stands behind a lone zero, which is all that has been read
  have hmark : ∀ {p : Pending} {radix : Radix}, isLoneZero cursor p = true →
      NumberPart p radix cursor.before tokens →
      p = ⟨.integer, 0, 0, false⟩ ∧ tokens = [] ∧ (cursor.advance 1).before = ['0', c] := by
    intro p radix hzero hpart
    have htext := text_of_isLoneZero hzero
    simp only [isLoneZero, Bool.and_eq_true, beq_iff_eq] at hzero
    obtain ⟨rfl, htokens⟩ := hpart.eq_of_integer hzero.1.1
    rw [Pending.text_eq] at htext
    have hbefore : cursor.before = ['0'] := htext
    exact ⟨rfl, htokens, by rw [Cursor.before_advance_one hc, hbefore]; rfl⟩
  cases h with
  | digit _ hlegal =>
    rw [Cursor.before_advance_one hc]
    exact .inl (NumberPart.digit hspells hlegal)
  | illegalDigit => exact .inr (.output (.fault (List.cons_ne_nil _ _)))
  | binaryMark hzero hmarked =>
    obtain ⟨rfl, rfl, hbefore⟩ := hmark hzero hspells
    rw [hbefore]
    exact .inl (.integer (.binary (CharClass.isBinaryMark_iff.1 hmarked) (.nil .binary)))
  | hexMark hzero hmarked =>
    obtain ⟨rfl, rfl, hbefore⟩ := hmark hzero hspells
    rw [hbefore]
    exact .inl (.integer (.hexadecimal (CharClass.isHexMark_iff.1 hmarked) (.nil .hexadecimal)))
  | _ => exact hspells.elim

/-- A part without a delimiter of its own ends the literal, or a repetend lacks its parenthesis. -/
theorem NumberPart.closes (h : NumberPart p radix cursor.before tokens) :
    NumberLiteral cursor.before (tokens ++ [closedNumber cursor p cursor.position]) ∨
      closingFaults p cursor.position ≠ [] := by
  by_cases hrepetend : p.category = .repetend
  · rw [closingFaults, if_pos hrepetend]
    exact .inr (List.cons_ne_nil _ _)
  · have hliteral := h.literal hrepetend
    rw [← h.token_eq rfl, cursor.length_before] at hliteral
    rw [closedNumber, if_neg hrepetend]
    exact .inl hliteral

theorem Closes.spells (h : Closes cursor c mode faults t next n) (hc : cursor.current? = some c)
    (hspells : mode.Spells cursor.before tokens) :
    next.Spells (cursor.advance n).before (tokens ++ [t]) ∨ Output.Strays ⟨[t], faults⟩ := by
  cases h with
  | range => exact .inr (.token List.mem_cons_self nofun)
  | repetend h hrepetend =>
    have hclosed := NumberPart.closed hspells hrepetend
    rw [← NumberPart.token_eq hspells rfl, cursor.length_before] at hclosed
    rw [Cursor.before_advance_one hc, h]
    exact .inl hclosed
  | numberGap => exact .inr (.fault (List.cons_ne_nil _ _))
  | number =>
    rw [cursor.advance_zero]
    exact (NumberPart.closes hspells).imp_right .fault
  | _ => exact hspells.elim

theorem HandsOver.spells (h : HandsOver cursor c mode faults t next)
    (hc : cursor.current? = some c) (hspells : mode.Spells cursor.before tokens) :
    next.Spells (cursor.advance 1).before (tokens ++ [t]) ∨ Output.Strays ⟨[t], faults⟩ := by
  cases h with
  | fraction h hinteger =>
    have hpoint := NumberPart.point hspells hinteger
    rw [← NumberPart.token_eq hspells rfl, cursor.length_before] at hpoint
    rw [Cursor.before_advance_one hc, h]
    exact .inl hpoint
  | repetend h hfraction =>
    have hparenthesis := NumberPart.parenthesis hspells hfraction
    rw [← NumberPart.token_eq hspells rfl, cursor.length_before] at hparenthesis
    rw [Cursor.before_advance_one hc, h]
    exact .inl hparenthesis
  | secondPoint => exact .inr (.fault (List.append_ne_nil_of_right_ne_nil _ (List.cons_ne_nil _ _)))
  | pointless => exact .inr (.fault (List.cons_ne_nil _ _))

theorem Transition.spells (h : Transition cursor c mode s) (hc : cursor.current? = some c)
    (hspells : mode.Spells cursor.before tokens) :
    s.mode.Spells (cursor.advance s.advance).before (tokens ++ s.output.tokens) ∨
      Deviates s.mode s.output := by
  cases h with
  | opens h =>
    rw [List.append_nil]
    exact h.spells hc hspells
  | emits h => exact .inr (.output h.strays)
  | resumes h =>
    rw [List.append_nil]
    exact h.spells hc hspells
  | closes h => exact (h.spells hc hspells).imp_right .output
  | handsOver h => exact (h.spells hc hspells).imp_right .output

theorem Finishes.spells (h : Finishes cursor mode faults t) (hend : cursor.position = cursor.size)
    (hspells : mode.Spells cursor.before tokens) :
    NumberLiteral cursor.before (tokens ++ [t]) ∨ Output.Strays ⟨[t], faults⟩ := by
  cases h with
  | number =>
    rw [← hend]
    exact (NumberPart.closes hspells).imp_right .fault
  | _ => exact hspells.elim

/-! ### The whole line -/

/-- A run has read a number literal so far, or has deviated. -/
theorem Reaches.spells (h : Reaches code mode cursor output) :
    mode.Spells cursor.before output.tokens ∨ Deviates mode output := by
  induction h with
  | start => exact .inl ⟨rfl, rfl⟩
  | @step mode cursor output c h hc ih =>
    -- a deviation is never made good, so it is enough to follow the literal itself
    have htransition := transition_step h.describes hc
    rcases ih with hspells | hdeviates
    · exact (htransition.spells hc hspells).imp_right fun hdeviates => hdeviates.of_append output
    · exact .inr (htransition.deviates h.describes hdeviates)

/-- A line that is not empty is a number literal, or its scan shows that it is none. -/
theorem numberLiteral_or_strays (hcode : code ≠ []) :
    NumberLiteral code (scan code).tokens ∨ (scan code).Strays := by
  obtain ⟨mode, cursor, output, hreach, hend, -, hscan⟩ := exists_reaches_scan code
  have hbefore := Cursor.before_eq_of_end hreach.chars hend
  have hspells := hreach.spells
  rw [hbefore] at hspells
  rw [hscan]
  rcases finishes_finish hreach.describes hend with ⟨hnone, hempty⟩ | ⟨faults, t, hfinishes, heq⟩
  · rw [hempty, Output.append_empty]
    rcases hspells with hspells | hstrays | hkind
    · cases mode with
      | demarcated => exact absurd hspells.1 hcode
      | undemarcated => exact .inl hspells
      | documentation => exact hspells.elim
      | _ => exact nomatch hnone
    · exact .inr hstrays
    · exact nomatch (Mode.kind?_eq_none hnone).symm.trans hkind
  · rw [heq]
    rcases hspells with hspells | hdeviates
    · rw [← hbefore] at hspells
      rw [← hbefore]
      exact (hfinishes.spells hend hspells).imp_right fun hstrays => hstrays.of_append output
    · exact .inr (hfinishes.strays hreach.describes hend hdeviates)

end

end LineLexer.Scan

namespace LineLexer

/-- Exactly the number literals are read as parts of a number and nothing else, without a fault, and
they are read as the grammar says. -/
theorem tokenize_number (line : Line) :
    ((line.code ≠ "" ∧ line.tokenize.2 = [] ∧ ∀ t ∈ line.tokenize.1, t.category.isNumber = true) ↔
        ∃ tokens, Scan.NumberLiteral line.code.toList tokens) ∧
      ∀ tokens, Scan.NumberLiteral line.code.toList tokens → line.tokenize = (tokens, []) := by
  have hliteral : ∀ tokens, Scan.NumberLiteral line.code.toList tokens →
      line.tokenize = (tokens, []) :=
    fun tokens h => Line.tokenize_of_scan (Scan.scan_of_numberLiteral h)
  refine ⟨⟨?_, ?_⟩, hliteral⟩
  · rintro ⟨hcode, herrors, hnumber⟩
    have hnonempty : line.code.toList ≠ [] := mt String.toList_eq_nil_iff.1 hcode
    rcases Scan.numberLiteral_or_strays hnonempty with hliteral | hfaults | ⟨ht, hkind⟩
    · exact ⟨_, hliteral⟩
    · exact absurd (Line.tokenize_snd_eq_nil_iff.1 herrors) hfaults
    · exact absurd (Category.kind_eq_number_iff.2 (hnumber _ ht)) hkind
  · rintro ⟨tokens, h⟩
    rw [hliteral tokens h]
    exact ⟨mt String.toList_eq_nil_iff.2 h.ne_nil, rfl, h.isNumber_of_mem⟩

/-- The radix of the integer is that of the other parts. -/
example : Scan.NumberLiteral "0x.F(b)".toList
    [⟨.hexadecimalInteger, .text "", 0, 2, false⟩, ⟨.fraction, .text "F", 2, 4, false⟩,
      ⟨.repetend, .text "b", 4, 7, false⟩] :=
  @Scan.NumberLiteral.repetend .hexadecimal ['0', 'x'] [] ['F'] ['b']
    (.hexadecimal (.inl rfl) (.nil _))
    (List.forall_mem_singleton.2 (.inr (.inl (by decide))))
    (List.forall_mem_singleton.2 (.inr (.inr (by decide))))

end LineLexer
