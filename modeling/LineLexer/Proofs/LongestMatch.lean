import LineLexer.Proofs.Kind
import LineLexer.Proofs.Passage

/-!
# Symbols by longest match

Where symbols stand side by side, the longest one counts at each place. The scan never compares
lengths: a symbol is put out at once if the registry says that no longer one starts with it, and is
held back for one character otherwise. That this comes to the same rests on two facts about the
registry, `Symbol.eq_of_unambiguous` and `Symbol.length_chars`.

* `LongestMatch`: a text cut into symbols, the longest one at each place;
* `exists_longestMatch`, `LongestMatch.unique`: a text of symbol characters is cut in one way;
* `scan_longestMatch`: the scan cuts it so;
* `Token.Unextended`, `scan_unextended`: in any line, no symbol is the start of a longer one;
* `tokenize_symbols`: both for the tokens of a `Line`.
-/

namespace LineLexer

/-! ## What the registry says -/

namespace Symbol

/-- A symbol is found under its characters and under no others. -/
theorem ofChars?_eq_some_iff {chars : List Char} {s : Symbol} :
    ofChars? chars = some s ↔ s.chars = chars :=
  ⟨chars_of_ofChars?, by rintro rfl; exact ofChars?_chars s⟩

/-- Symbols have one character or two. -/
theorem length_chars (s : Symbol) : s.chars.length = 1 ∨ s.chars.length = 2 := by
  cases s <;> decide

/-- No other symbol starts with an unambiguous one. -/
theorem eq_of_unambiguous {s other : Symbol} (h : s.unambiguous = true)
    (hfront : s.chars <+: other.chars) : other = s := by
  have hall : (all.all fun s => all.all fun other =>
      s.unambiguous && s.chars.isPrefixOf other.chars → other = s) = true := by decide +kernel
  have hs := List.all_eq_true.1 (List.all_eq_true.1 hall s s.mem_all) other other.mem_all
  refine of_decide_eq_true hs ?_
  rw [h, List.isPrefixOf_iff_prefix.2 hfront]
  rfl

/-- No symbol of two characters starts with the one character of an unambiguous symbol. -/
theorem chars_ne_of_unambiguous {s : Symbol} {c d : Char} (hs : ofChar? c = some s)
    (h : s.unambiguous = true) (other : Symbol) : other.chars ≠ [c, d] := by
  intro hother
  have hchars : s.chars = [c] := chars_of_ofChars? hs
  have hfront : s.chars <+: other.chars := by
    rw [hchars, hother]
    exact ⟨[d], rfl⟩
  rw [eq_of_unambiguous h hfront, hchars] at hother
  exact absurd hother (by simp)

end Symbol

/-- A text cut into symbols, the longest one that there is at each place. -/
inductive LongestMatch : List Char → List Symbol → Prop
  | nil : LongestMatch [] []
  | cons {s : Symbol} {rest : List Char} {symbols : List Symbol}
      (longest : ∀ other : Symbol, other.chars <+: s.chars ++ rest →
        other.chars.length ≤ s.chars.length)
      (h : LongestMatch rest symbols) : LongestMatch (s.chars ++ rest) (s :: symbols)

/-- The tokens of symbols that stand side by side from a column on. -/
def symbolTokens (start : Nat) : List Symbol → List Token
  | [] => []
  | s :: symbols =>
    .ofSymbol s start (start + s.chars.length) :: symbolTokens (start + s.chars.length) symbols

/-- No symbol is made of the characters of a token and the one behind it. -/
def Token.Unextended (code : List Char) (t : Token) : Prop :=
  ∀ d, code[t.stop]? = some d → ∀ s : Symbol, s.chars ≠ t.raw code ++ [d]

section
variable {text : List Char} {symbols others : List Symbol}

/-- The longest symbols of a text are unique. -/
theorem LongestMatch.unique (h : LongestMatch text symbols) (h' : LongestMatch text others) :
    symbols = others := by
  induction h generalizing others with
  | nil =>
    generalize htext : ([] : List Char) = text at h'
    cases h' with
    | nil => rfl
    | @cons s rest symbols longest h =>
      have hlength := s.length_chars
      have hempty := congrArg List.length htext
      rw [List.length_append, List.length_nil] at hempty
      omega
  | @cons s rest symbols longest h ih =>
    generalize htext : s.chars ++ rest = text at h'
    cases h' with
    | nil =>
      have hlength := s.length_chars
      have hempty := congrArg List.length htext
      rw [List.length_append, List.length_nil] at hempty
      omega
    | @cons s' rest' symbols' longest' h' =>
      -- each of the two is as long as the other, and both start the text
      have hle := longest' s (htext ▸ List.prefix_append _ _)
      have hge := longest s' (htext ▸ List.prefix_append _ _)
      obtain ⟨hchars, hrest⟩ := List.append_inj htext (Nat.le_antisymm hle hge)
      have hsymbol : s = s' :=
        Option.some.inj ((Symbol.ofChars?_chars s).symm.trans (hchars ▸ Symbol.ofChars?_chars s'))
      rw [hsymbol, ih (hrest ▸ h')]

/-- Two characters that are a symbol are the longest one at their place. -/
theorem LongestMatch.pair {s : Symbol} {c d : Char} (hs : s.chars = [c, d])
    (h : LongestMatch text symbols) : LongestMatch (c :: d :: text) (s :: symbols) := by
  have hcons : LongestMatch (s.chars ++ text) (s :: symbols) := by
    refine .cons (fun other _ => ?_) h
    have hlength := other.length_chars
    rw [hs]
    show _ ≤ 2
    omega
  rwa [hs] at hcons

/-- A character is the longest symbol at its place if it is none together with the next one. -/
theorem LongestMatch.single {s : Symbol} {c : Char} (hs : s.chars = [c])
    (hpair : ∀ d, text.head? = some d → Symbol.ofChars? [c, d] = none)
    (h : LongestMatch text symbols) : LongestMatch (c :: text) (s :: symbols) := by
  have hcons : LongestMatch (s.chars ++ text) (s :: symbols) := by
    refine .cons (fun other hfront => ?_) h
    rw [hs] at hfront ⊢
    rcases other.length_chars with hone | htwo
    · exact Nat.le_of_eq hone
    · obtain ⟨a, d, hchars⟩ := List.length_eq_two.1 htwo
      rw [hchars] at hfront
      obtain ⟨more, hmore⟩ := hfront
      obtain ⟨rfl, hrest⟩ := List.cons.inj hmore
      have hother := Symbol.ofChars?_eq_some_iff.2 hchars
      have htext : text.head? = some d := (congrArg List.head? hrest).symm
      rw [hpair d htext] at hother
      exact nomatch hother
  rwa [hs] at hcons

/-- A text of symbol characters can be cut into symbols. -/
theorem exists_longestMatch (h : ∀ c ∈ text, (CharClass.of c).isSymbolic = true) :
    ∃ symbols, LongestMatch text symbols := by
  -- on the length, since one symbol takes up to two characters
  induction hlength : text.length using Nat.strong_induction_on generalizing text with
  | _ n ih =>
    cases text with
    | nil => exact ⟨[], .nil⟩
    | cons c text =>
      obtain ⟨s, hs⟩ := CharClass.ofChar?_of_isSymbolic (h c List.mem_cons_self)
      have hchars : s.chars = [c] := Symbol.chars_of_ofChars? hs
      have htext : ∀ d ∈ text, (CharClass.of d).isSymbolic = true :=
        fun d hd => h d (List.mem_cons_of_mem c hd)
      rw [List.length_cons] at hlength
      cases text with
      | nil => exact ⟨[s], .single hchars (fun _ hd => nomatch hd) .nil⟩
      | cons d text =>
        cases hpair : Symbol.ofChars? [c, d] with
        | some pair =>
          obtain ⟨symbols, hsymbols⟩ := ih text.length (by rw [← hlength, List.length_cons]; omega)
            (fun e he => htext e (List.mem_cons_of_mem d he)) rfl
          exact ⟨pair :: symbols, .pair (Symbol.chars_of_ofChars? hpair) hsymbols⟩
        | none =>
          obtain ⟨symbols, hsymbols⟩ := ih (d :: text).length (by omega) htext rfl
          refine ⟨s :: symbols, .single hchars (fun e he => ?_) hsymbols⟩
          obtain rfl : d = e := Option.some.inj he
          exact hpair

/-- At the start of a text cut into symbols there is a symbol character. -/
theorem LongestMatch.isSymbolic_of_head? (h : LongestMatch text symbols) {d : Char}
    (hd : text.head? = some d) : (CharClass.of d).isSymbolic = true := by
  cases h with
  | nil => exact nomatch hd
  | @cons s rest symbols longest h =>
    refine CharClass.isSymbolic_of_mem_chars (s := s) ?_
    have hlength := s.length_chars
    cases hchars : s.chars with
    | nil =>
      rw [hchars, List.length_nil] at hlength
      omega
    | cons e es =>
      rw [hchars] at hd
      obtain rfl : e = d := Option.some.inj hd
      exact List.mem_cons_self

end

namespace Scan

section
variable {before after text : List Char} {symbols : List Symbol} {separated : Bool}
  {output : Output} {c : Char} {s : Symbol}

/-- A symbol held back stands alone at the end of the line. -/
theorem finish_held {cursor : Cursor} (hbefore : cursor.before = before ++ [c])
    (hafter : cursor.after = []) (hs : Symbol.ofChar? c = some s) :
    finish (.symbol (.opened .punctuation before.length)) cursor =
      .token (.ofSymbol s before.length (before.length + 1)) := by
  have htext : (Pending.opened .punctuation before.length).text cursor = [c] := by
    rw [Pending.text_eq, hbefore]
    exact List.drop_left
  show (closeSymbol cursor _ cursor.size).1 = _
  rw [← Cursor.position_eq_of_after hafter, closeSymbol_eq htext hs, (position_held hbefore).1]
  rfl

/-- The scan cuts symbols that stand side by side as the longest match does. -/
theorem scan_longestMatch (h : LongestMatch text symbols)
    (hpasses : Passes before text (.between separated) output) :
    scan (before ++ text) = output ++ ⟨symbolTokens before.length symbols, []⟩ := by
  induction h generalizing before separated output with
  | nil =>
    rw [List.append_nil, hpasses.scan_eq fun cursor _ _ _ => finish_of_pending?_eq_none ?_]
    · rfl
    · cases separated <;> rfl
  | @cons s rest symbols longest h ih =>
    -- once the first symbol has come out, the others follow it
    have hnext : Passes (before ++ s.chars) rest (.after s)
          (output ++ .token (.ofSymbol s before.length (before.length + s.chars.length))) →
        scan (before ++ (s.chars ++ rest)) =
          output ++ ⟨symbolTokens before.length (s :: symbols), []⟩ := by
      intro hpasses
      have hnext : Passes _ rest (.between s.demarcating) _ := hpasses
      have hrest := ih hnext
      rw [List.append_assoc] at hrest
      rw [hrest, symbolTokens, List.length_append, Output.append_assoc]
      rfl
    rcases s.length_chars with hone | htwo
    · obtain ⟨c, hchars⟩ := List.length_eq_one_iff.1 hone
      have hs : Symbol.ofChar? c = some s := Symbol.ofChars?_eq_some_iff.2 hchars
      have hclass : (CharClass.of c).isSymbolic = true :=
        CharClass.isSymbolic_of_mem_chars (s := s) (by rw [hchars]; simp)
      rw [hchars] at hpasses longest hnext ⊢
      cases hunambiguous : s.unambiguous with
      | true =>
        refine hnext (hpasses.take fun cursor hbefore _ _ => ?_)
        rw [← hbefore, cursor.length_before]
        exact .emits (.symbol hclass hs hunambiguous)
      | false =>
        -- it is held back, and what stands behind it decides
        have hheld := hpasses.hold hs hunambiguous
        cases rest with
        | nil =>
          obtain rfl := LongestMatch.nil.unique h
          rw [List.append_nil, hheld.scan_eq fun cursor hbefore hafter _ =>
            finish_held hbefore hafter hs, symbolTokens, hchars]
          rfl
        | cons d rest =>
          -- a pair would be longer, and a sign leads no name in where a symbol follows
          have hsymbolic := h.isSymbolic_of_head? rfl
          have hpair : Symbol.ofChars? [c, d] = none := by
            refine Option.eq_none_iff_forall_ne_some.2 fun other hother => ?_
            have hchars' := Symbol.chars_of_ofChars? hother
            have hle := longest other (by rw [hchars']; exact ⟨rest, rfl⟩)
            rw [hchars'] at hle
            exact absurd hle (Nat.not_succ_le_self 1)
          refine hnext (hheld.leave fun cursor hbefore _ _ => ?_)
          obtain ⟨hposition, hheld⟩ := position_held hbefore
          rw [List.length_singleton, ← hposition]
          refine .closes (.symbol hheld hs (fun _ => hpair) fun hletter => ?_)
          rw [CharClass.isLetterClass_of_isSymbolic hsymbolic] at hletter
          exact absurd hletter Bool.false_ne_true
    · -- the first character is held back as well, since this very symbol starts with it
      obtain ⟨c, d, hchars⟩ := List.length_eq_two.1 htwo
      have hclass : ∀ e ∈ [c, d], (CharClass.of e).isSymbolic = true :=
        fun e he => CharClass.isSymbolic_of_mem_chars (s := s) (by rwa [hchars])
      rw [hchars] at hpasses hnext ⊢
      obtain ⟨first, hfirst⟩ := CharClass.ofChar?_of_isSymbolic (hclass c (by simp))
      have hambiguous : first.unambiguous = false :=
        eq_false_of_ne_true fun h => Symbol.chars_ne_of_unambiguous hfirst h s hchars
      have hheld : Passes (before ++ [c]) (d :: rest) _ output := hpasses.hold hfirst hambiguous
      have hpair : Passes (before ++ [c] ++ [d]) rest (.after s)
          (output ++ .token (.ofSymbol s before.length (before.length + 2))) :=
        hheld.take fun cursor hbefore _ _ => by
          obtain ⟨hposition, hheld⟩ := position_held hbefore
          rw [show before.length + 2 = cursor.position + 1 by omega]
          exact .closes (.pair hheld (hclass d (by simp)) (Symbol.ofChars?_eq_some_iff.2 hchars))
      rw [List.append_assoc] at hpair
      exact hnext hpair

end

/-! ## In any line -/

section
variable {code : List Char} {cursor : Cursor} {c : Char} {t : Token} {faults : List Fault}
  {mode next : Mode} {n : Nat}

/-- A token of two characters is the start of no longer symbol. -/
theorem unextended_of_pair (h : t.stop = t.start + 2) : Token.Unextended code t := by
  intro d hd s hs
  have hlt : t.stop < code.length := (List.getElem?_eq_some_iff.1 hd).1
  have hlength := s.length_chars
  rw [hs, List.length_append, Token.raw, List.length_drop, List.length_take,
    Nat.min_eq_left (Nat.le_of_lt hlt), List.length_singleton] at hlength
  omega

/-- A token that reaches to the end of the line is the start of no longer symbol. -/
theorem unextended_of_end (h : t.stop = code.length) : Token.Unextended code t := by
  intro d hd
  rw [h, List.getElem?_eq_none (Nat.le_refl _)] at hd
  exact nomatch hd

theorem Emits.unextended (h : Emits cursor c faults t next n) (hcode : cursor.chars = code.toArray)
    (hc : cursor.current? = some c) (hsymbol : t.category = .punctuation) :
    t.Unextended code := by
  have hslice : cursor.slice cursor.position (cursor.position + 1) = [c] :=
    Cursor.slice_singleton hc
  cases h with
  | @symbol s _ hs hunambiguous =>
    intro d _ other hother
    rw [raw_eq_slice hcode, Token.ofSymbol, hslice] at hother
    exact Symbol.chars_ne_of_unambiguous hs hunambiguous other hother
  | illegal h =>
    intro d _ other hother
    rw [raw_eq_slice hcode, start_tag, stop_tag, hslice] at hother
    have hclass := CharClass.isSymbolic_of_mem_chars (s := other) (c := c) (by rw [hother]; simp)
    rw [h] at hclass
    exact absurd hclass Bool.false_ne_true
  | documentation =>
    have hcategory : Category.documentation = .punctuation := hsymbol
    exact absurd hcategory (by decide)

theorem Closes.unextended (h : Closes cursor c mode faults t next n)
    (hcode : cursor.chars = code.toArray) (hd : mode.Describes cursor)
    (hc : cursor.current? = some c) (hsymbol : t.category = .punctuation) :
    t.Unextended code := by
  rcases h.kind_eq hd with hkind | ⟨-, start, rfl⟩
  · rw [hsymbol] at hkind
    cases h with
    | @pair p first s hfirst =>
      have hlength := p.length_text cursor
      rw [hd.text_symbol hfirst, List.length_singleton] at hlength
      have hstop : cursor.position + 1 = p.start + 2 := by omega
      exact unextended_of_pair hstop
    | @symbol p first s hfirst _ hunpaired =>
      intro d hnext other hother
      have hraw : (Token.ofSymbol s p.start cursor.position).raw code = [first] :=
        (raw_eq_slice hcode _).trans (hd.text_symbol hfirst)
      obtain rfl : c = d :=
        Option.some.inj (hc.symm.trans ((Cursor.charAt?_of_chars hcode _).trans hnext))
      rw [hraw] at hother
      have hclass : (CharClass.of c).isSymbolic = true :=
        CharClass.isSymbolic_of_mem_chars (s := other) (by rw [hother]; simp)
      have hpair := Symbol.ofChars?_eq_some_iff.2 hother
      exact nomatch (hunpaired hclass).symm.trans hpair
    | _ => exact nomatch hkind
  · exact unextended_of_pair rfl

/-- No symbol token of a line is the start of a longer symbol that stands there. -/
theorem scan_unextended (code : List Char) :
    ∀ t ∈ (scan code).tokens, t.category = .punctuation → t.Unextended code := by
  apply forall_mem_scan
  case emits => exact fun hreach hc h => h.unextended hreach.chars hc
  case closes => exact fun hreach hc h => h.unextended hreach.chars hreach.describes hc
  case handsOver =>
    intro mode cursor output c faults t next hreach _ h hsymbol
    have hkind := (h.kind_eq hreach.describes).2
    rw [hsymbol] at hkind
    exact nomatch hkind
  case finishes =>
    intro mode cursor output faults t hreach _ h _
    obtain ⟨-, -, -, hstop⟩ := h.span
    exact unextended_of_end (hstop.trans hreach.size)

end

end Scan

/-- In no line is a symbol the start of a longer one that stands there, and a line of symbol
characters is cut, without a fault, into the longest symbols from left to right. -/
theorem tokenize_symbols (line : Line) :
    (∀ t ∈ line.tokenize.1, t.category = .punctuation → t.Unextended line.code.toList) ∧
      ((∀ c ∈ line.code.toList, (CharClass.of c).isSymbolic = true) →
        ∃ symbols, LongestMatch line.code.toList symbols ∧
          (∀ others, LongestMatch line.code.toList others → others = symbols) ∧
          line.tokenize = (symbolTokens 0 symbols, [])) := by
  refine ⟨Scan.scan_unextended line.code.toList, fun hsymbolic => ?_⟩
  obtain ⟨symbols, hmatch⟩ := exists_longestMatch hsymbolic
  refine ⟨symbols, hmatch, fun others hothers => hothers.unique hmatch, ?_⟩
  have hstart : Scan.Passes [] line.code.toList (.between true) .empty := .start _
  exact Line.tokenize_of_scan (Scan.scan_longestMatch hmatch hstart)

/-- The symbol on the left takes the sign that an arrow would start with. -/
example : LongestMatch "<->".toList [.binding, .greater] :=
  .pair rfl (.single rfl nofun .nil)

end LineLexer
