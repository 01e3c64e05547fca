import LineLexer.Proofs.Verdict

/-!
# Characters that are reported

A transition that takes a character reports it as the next mode sees it, the modes that follow
do not change their mind about it, and neither does the token in the end. So the scan reports
each character exactly as the token that covers it calls for, once and in the order of the
line: `tokenize_characters`.

* `characterFaults`: the faults about characters;
* `Marked`: what is known in a reachable state about the characters reported so far;
* `Heeds`: outside of quotes and documentation, no stray character goes unreported;
* `Led`: every part of a number has an integer in front of it.
-/

namespace LineLexer
namespace Scan

/-! ## Faults at a character -/

/-- The fault of an issue about the character at a column. -/
def Fault.at (column : Nat) (issue : SyntaxIssue) : Fault :=
  ⟨issue, .span column (column + 1)⟩

/-- The faults about characters. -/
def characterFaults (faults : List Fault) : List Fault :=
  faults.filter (·.issue.isCharacter)

section
variable {faults : List Fault}

theorem characterFaults_eq_nil (h : ∀ fault ∈ faults, fault.issue.isCharacter = false) :
    characterFaults faults = [] := by
  refine List.filter_eq_nil_iff.2 fun fault hfault hcharacter => ?_
  exact absurd ((h fault hfault).symm.trans hcharacter) Bool.false_ne_true

theorem characterFaults_at {issue : SyntaxIssue} {column : Nat} (h : issue.isCharacter = true) :
    characterFaults [.at column issue] = [.at column issue] :=
  List.filter_cons_of_pos h

theorem characterFaults_gapUnless {separated : Bool} {issue : SyntaxIssue} {column : Nat}
    (h : issue.isCharacter = false) : characterFaults (gapUnless separated issue column) = [] := by
  cases separated with
  | true => rfl
  | false => exact characterFaults_eq_nil (List.forall_mem_singleton.2 h)

theorem characterFaults_closingFaults (p : Pending) (stop : Nat) :
    characterFaults (closingFaults p stop) = [] := by
  unfold closingFaults
  split <;> rfl

end

section
variable {cursor : Cursor} {c : Char} {mode next : Mode} {faults : List Fault} {t : Token} {n : Nat}

/-- The first character of a token is reported as the mode sees it. -/
theorem Opens.characterFaults_eq {separated : Bool} (h : Opens cursor c separated faults next) :
    characterFaults faults =
      ((next.verdict cursor.position c).map (Fault.at cursor.position)).toList := by
  cases h with
  | tab hc =>
    have hissue : (tabIssue cursor.position).isCharacter = true := by
      unfold tabIssue
      split <;> rfl
    rw [CharClass.of_eq_tab_iff.1 hc]
    exact characterFaults_at hissue
  | space hc =>
    rw [CharClass.of_eq_space_iff.1 hc]
    rfl
  | number hc =>
    have hdigit : CharClass.isDigit c = true := CharClass.of_eq_digit_iff.1 hc
    rw [characterFaults_gapUnless rfl]
    simp [Mode.verdict, Radix.issue?, Radix.accepts, hdigit]
  | capitalized hc | uncapitalized hc =>
    have hletter : (CharClass.of c).isLetterClass = true := by
      rw [hc]
      rfl
    rw [characterFaults_gapUnless rfl, Mode.verdict, wordIssue?_of_isLetterClass hletter]
    rfl
  | doubleQuoted | singleQuoted =>
    rw [characterFaults_gapUnless rfl]
    rfl
  | symbol => rfl

/-- A token that is emitted at once is reported as it sees its first character. -/
theorem Emits.characterFaults_eq (h : Emits cursor c faults t next n) (radix? : Option Radix) :
    characterFaults faults =
      ((t.verdict radix? cursor.position c).map (Fault.at cursor.position)).toList := by
  cases h with
  | symbol hc hs =>
    have hclass := ne_other_of_isStray (isStray_of_isSymbolic hc)
    rw [verdict_ofSymbol fun _ => hclass]
    rfl
  | illegal hc =>
    rw [verdict_illegal hc]
    rfl
  | documentation => rfl

/-- A mode sees the characters before the cursor as the mode did that it goes on with. -/
theorem Resumes.verdict_eq (h : Resumes cursor c mode faults next n) (hd : mode.Describes cursor)
    {p : Pending} (hp : mode.pending? = some p) {column : Nat} {d : Char} (hle : p.start ≤ column)
    (hlt : column < cursor.position) (hchar : cursor.charAt? column = some d) :
    next.verdict column d = mode.verdict column d := by
  -- where the token has one character so far, the column is its start
  have hfirst : ∀ {first}, p.text cursor = [first] → column = p.start ∧ d = first := by
    intro first htext
    have hlen := p.length_text cursor
    have hmem : d ∈ p.text cursor := Cursor.mem_slice hchar hle hlt
    rw [htext] at hlen hmem
    rw [List.length_singleton] at hlen
    exact ⟨by omega, List.mem_singleton.1 hmem⟩
  have hletter : ∀ {mark}, p.width cursor.position = 1 → cursor.charAt? p.start = some mark →
      WordText p (p.text cursor) → wordIssue? d = none := by
    intro mark hwidth hmark hword
    have htext := Pending.text_of_width_one hwidth hmark
    rw [(hfirst htext).2]
    exact wordIssue?_of_isLetterClass (hword.letter_of_singleton htext)
  cases h with
  | space | tab | word | illegalInWord | digit | illegalDigit | doubleQuoted | singleQuoted
  | doubledQuote => rfl
  | signed hstart hsign =>
    obtain rfl := Option.some.inj hp
    obtain ⟨-, rfl⟩ := hfirst (hd.text_symbol hstart)
    show wordIssue? d = none
    rw [wordIssue?, CharClass.of_eq_sign_iff.2 hsign]
  | binaryQuoted _ hwidth hmark | hexQuoted _ hwidth hmark | unknownQuoted _ hwidth hmark =>
    obtain rfl := Option.some.inj hp
    exact (hletter hwidth hmark hd).symm
  | @binaryMark q radix hzero | @hexMark q radix hzero =>
    -- the zero was a digit, and is part of what leads the number in from now on
    obtain rfl := Option.some.inj hp
    obtain ⟨rfl, rfl⟩ := hfirst (text_of_isLoneZero hzero)
    have hlead : ¬q.start + 2 ≤ q.start := by omega
    have hdigit : radix.issue? '0' = none := by cases radix <;> rfl
    show (if q.start + 2 ≤ q.start then _ else none) =
      if q.start + q.offset ≤ q.start then radix.issue? '0' else none
    rw [if_neg hlead, hdigit, ite_self]

/-- A character that goes on with a token is reported as the next mode sees it. -/
theorem Resumes.characterFaults_eq (h : Resumes cursor c mode faults next n)
    (hd : mode.Describes cursor) :
    characterFaults faults =
      ((next.verdict cursor.position c).map (Fault.at cursor.position)).toList := by
  cases h with
  | space hc =>
    rw [CharClass.of_eq_space_iff.1 hc]
    rfl
  | @tab p hc =>
    have hstart : p.start < cursor.position := hd.start_lt rfl
    have hissue : tabIssue cursor.position = .illegalTab := if_neg (by omega)
    rw [CharClass.of_eq_tab_iff.1 hc]
    show _ = [Fault.at cursor.position (tabIssue cursor.position)]
    rw [hissue]
    rfl
  | signed _ _ hc =>
    rw [Mode.verdict, wordIssue?_of_isLetterClass hc]
    rfl
  | word hc =>
    have hnone : wordIssue? c = none := by
      simp only [List.mem_cons, List.not_mem_nil, or_false] at hc
      rcases hc with hc | hc | hc | hc <;> rw [wordIssue?, hc]
    rw [Mode.verdict, hnone]
    rfl
  | illegalInWord hc =>
    have hsome : wordIssue? c = some .illegalCharacterInWord := by
      simp only [List.mem_cons, List.not_mem_nil, or_false] at hc
      rcases hc with hc | hc <;> rw [wordIssue?, hc]
    rw [Mode.verdict, hsome]
    rfl
  | binaryQuoted | hexQuoted | unknownQuoted | doubleQuoted | singleQuoted | doubledQuote => rfl
  | @digit p radix _ hlegal =>
    have hnone : radix.issue? c = none := if_pos hlegal
    rw [Mode.verdict, hnone, ite_self]
    rfl
  | @illegalDigit p radix _ hillegal =>
    have hsome : radix.issue? c = some (digitIssue radix) := if_neg (by simp [hillegal])
    have hlexeme : p.start + p.offset ≤ cursor.position := by
      have hstart : p.start < cursor.position := hd.start_lt rfl
      have hoffset := NumberText.offset_le_length hd
      rw [p.length_text] at hoffset
      omega
    show _ = ((if p.start + p.offset ≤ cursor.position then radix.issue? c
      else none).map (Fault.at cursor.position)).toList
    rw [if_pos hlexeme, hsome]
    cases radix <;> rfl
  | @binaryMark p radix hzero | @hexMark p radix hzero =>
    have hlead : ¬p.start + 2 ≤ cursor.position := by
      simp only [isLoneZero, Bool.and_eq_true, beq_iff_eq, Pending.width] at hzero
      omega
    show _ = ((if p.start + 2 ≤ cursor.position then _ else none).map
      (Fault.at cursor.position)).toList
    rw [if_neg hlead]
    rfl

/-- Nothing is reported about a character when a token is closed. -/
theorem Closes.characterFaults_eq (h : Closes cursor c mode faults t next n) :
    characterFaults faults = [] := by
  cases h with
  | numberGap => exact characterFaults_closingFaults _ _
  | number => exact characterFaults_closingFaults _ _
  | whitespace | pair | symbol | predicate | word | range | repetend | doubleQuoted
  | singleQuoted => rfl

theorem HandsOver.characterFaults_eq (h : HandsOver cursor c mode faults t next) :
    characterFaults faults = [] := by
  cases h with
  | fraction | repetend | pointless => rfl
  | secondPoint =>
    rw [characterFaults, List.filter_append]
    exact congrArg (· ++ []) (characterFaults_closingFaults _ _)

theorem Finishes.characterFaults_eq (h : Finishes cursor mode faults t) :
    characterFaults faults = [] := by
  cases h with
  | number => exact characterFaults_closingFaults _ _
  | whitespace | symbol | word | doubleQuoted | singleQuoted => rfl

end

/-! ## Along a run -/

/-- The faults that issues of the characters at some columns give rise to. -/
def marks (issueAt? : Nat → Option SyntaxIssue) (columns : List Nat) : List Fault :=
  columns.filterMap fun column => (issueAt? column).map (Fault.at column)

/-- What is wrong with the character at a column before the cursor: the tokens put out so far say
it, and behind them the mode. -/
def standing? (code : List Char) (mode : Mode) (cursor : Cursor) (tokens : List Token)
    (column : Nat) : Option SyntaxIssue :=
  if column < mode.settled cursor then diagnosis? code tokens column
  else code[column]?.bind (mode.verdict column)

/-- The characters before the cursor have been reported as they stand, in their order. -/
def Marked (code : List Char) (mode : Mode) (cursor : Cursor) (output : Output) : Prop :=
  characterFaults output.faults =
    marks (standing? code mode cursor output.tokens) (List.range cursor.position)

theorem marks_append (issueAt? : Nat → Option SyntaxIssue) (columns more : List Nat) :
    marks issueAt? (columns ++ more) = marks issueAt? columns ++ marks issueAt? more :=
  List.filterMap_append

theorem marks_congr {issueAt? issueAt?' : Nat → Option SyntaxIssue} {columns : List Nat}
    (h : ∀ column ∈ columns, issueAt? column = issueAt?' column) :
    marks issueAt? columns = marks issueAt?' columns := by
  refine List.filterMap_congr fun column hcolumn => ?_
  rw [h column hcolumn]

theorem marks_eq_nil {issueAt? : Nat → Option SyntaxIssue} {columns : List Nat}
    (h : ∀ column ∈ columns, issueAt? column = none) : marks issueAt? columns = [] := by
  refine List.filterMap_eq_nil_iff.2 fun column hcolumn => ?_
  rw [h column hcolumn]
  rfl

theorem marks_singleton (issueAt? : Nat → Option SyntaxIssue) (column : Nat) :
    marks issueAt? [column] = ((issueAt? column).map (Fault.at column)).toList := by
  cases h : issueAt? column <;> simp [marks, h]

section
variable {code : List Char} {cursor : Cursor} {c : Char} {mode next : Mode} {output more : Output}
  {n : Nat}

/-- A state is left marked if what stands before the cursor does not change and what is passed is
reported as it stands then. -/
theorem Marked.advance (h : Marked code mode cursor output)
    (hle : cursor.position + n ≤ cursor.size)
    (hold : ∀ column < cursor.position,
      standing? code next (cursor.advance n) (output ++ more).tokens column =
        standing? code mode cursor output.tokens column)
    (hnew : characterFaults more.faults =
      marks (standing? code next (cursor.advance n) (output ++ more).tokens)
        (List.range' cursor.position n)) :
    Marked code next (cursor.advance n) (output ++ more) := by
  have hrange : List.range (cursor.position + n) =
      List.range cursor.position ++ List.range' cursor.position n := by
    have happend := List.range'_append_1 (s := 0) (m := cursor.position) (n := n)
    rw [Nat.zero_add] at happend
    rw [List.range_eq_range', List.range_eq_range', happend]
  have hbefore := marks_congr fun column hcolumn => hold column (List.mem_range.1 hcolumn)
  show List.filter _ (output.faults ++ more.faults) = _
  rw [List.filter_append, Cursor.position_advance hle, hrange, marks_append, hbefore, ← hnew, ← h]
  rfl

/-- The character at a column that is not yet settled stands as the mode sees it. -/
theorem standing?_of_le {tokens : List Token} {column : Nat} {d : Char}
    (h : mode.settled cursor ≤ column) (hd : code[column]? = some d) :
    standing? code mode cursor tokens column = mode.verdict column d := by
  rw [standing?, if_neg (Nat.not_lt.2 h), hd, Option.bind_some]

theorem standing?_of_lt {tokens : List Token} {column : Nat} (h : column < mode.settled cursor) :
    standing? code mode cursor tokens column = diagnosis? code tokens column :=
  if_pos h

/-- The characters of a new token stand as it sees them. -/
theorem standing?_of_covers {tokens : List Token} {t : Token} {column : Nat} {d : Char}
    (htiles : Tiles 0 tokens t.start) (hsettled : mode.settled cursor = t.stop)
    (hle : t.start ≤ column) (hlt : column < t.stop) (hd : code[column]? = some d) :
    standing? code mode cursor (tokens ++ [t]) column =
      t.verdict (t.category.radix?.or (lastRadix? tokens)) column d := by
  rw [standing?_of_lt (by rwa [hsettled]),
    diagnosis?_append_of_covers htiles (Token.covers_iff.2 ⟨hle, hlt⟩), hd, Option.bind_some]

theorem Opens.marked {separated : Bool} {faults : List Fault}
    (h : Opens cursor c separated faults next) (hcode : cursor.chars = code.toArray)
    (hc : cursor.current? = some c) (hmarked : Marked code (.between separated) cursor output) :
    Marked code next (cursor.advance 1) (output ++ ⟨[], faults⟩) := by
  obtain ⟨p, hp, hstart⟩ := h.pending?
  have hsettled : next.settled (cursor.advance 1) = cursor.position := by
    rw [Mode.settled_of_some hp, hstart]
  have hchar : code[cursor.position]? = some c := (Cursor.charAt?_of_chars hcode _).symm.trans hc
  apply hmarked.advance (Cursor.position_lt_of_current? hc)
  · intro column hlt
    rw [standing?_of_lt (by rwa [hsettled]), standing?_of_lt (by rwa [Mode.settled_between]),
      Output.tokens_append, List.append_nil]
  · rw [h.characterFaults_eq]
    show _ = marks _ [cursor.position]
    rw [marks_singleton, standing?_of_le (Nat.le_of_eq hsettled) hchar]

theorem Mode.verdict_of_isQuoted (h : mode.isQuoted = true) (column : Nat) (d : Char) :
    mode.verdict column d = none := by
  cases mode <;> first | rfl | exact absurd h Bool.false_ne_true

theorem Resumes.marked {faults : List Fault} (h : Resumes cursor c mode faults next n)
    (hcode : cursor.chars = code.toArray) (hd : mode.Describes cursor)
    (hc : cursor.current? = some c) (hle : cursor.position + n ≤ cursor.size)
    (hmarked : Marked code mode cursor output) :
    Marked code next (cursor.advance n) (output ++ ⟨[], faults⟩) := by
  obtain ⟨p, q, hp, hq, hstart⟩ := h.pending?
  have hopen : p.start < cursor.position := hd.start_lt hp
  have hbefore : mode.settled cursor = p.start := Mode.settled_of_some hp
  have hafter : next.settled (cursor.advance n) = p.start := by
    rw [Mode.settled_of_some hq, hstart]
  apply hmarked.advance hle
  · intro column hlt
    rw [Output.tokens_append, List.append_nil]
    by_cases hcolumn : column < p.start
    · rw [standing?_of_lt (by omega), standing?_of_lt (by omega)]
    · obtain ⟨d, hd', hcode'⟩ := Cursor.exists_charAt?_of_chars hcode (i := column) (by omega)
      rw [standing?_of_le (by omega) hcode', standing?_of_le (by omega) hcode']
      exact h.verdict_eq hd hp (by omega) hlt hd'
  · rw [h.characterFaults_eq hd]
    rcases h.advance_eq with rfl | ⟨-, hquoted, -⟩
    · have hcode' : code[cursor.position]? = some c :=
        (Cursor.charAt?_of_chars hcode _).symm.trans hc
      show _ = marks _ [cursor.position]
      rw [marks_singleton, standing?_of_le (by omega) hcode']
    · rw [Mode.verdict_of_isQuoted hquoted]
      refine (marks_eq_nil fun column hcolumn => ?_).symm
      rw [List.mem_range'_1] at hcolumn
      obtain ⟨d, -, hcode'⟩ := Cursor.exists_charAt?_of_chars hcode (i := column) (by omega)
      rw [standing?_of_le (by omega) hcode', Mode.verdict_of_isQuoted hquoted]

/-- A token that is emitted at once takes one character, or is documentation. -/
theorem Emits.advance_eq {faults : List Fault} {t : Token} (h : Emits cursor c faults t next n) :
    n = 1 ∨ t.category = .documentation := by
  cases h <;> first | exact .inl rfl | exact .inr rfl

theorem Emits.marked {separated : Bool} {faults : List Fault} {t : Token}
    (h : Emits cursor c faults t next n) (hcode : cursor.chars = code.toArray)
    (hc : cursor.current? = some c) (htiles : Tiles 0 output.tokens cursor.position)
    (hmarked : Marked code (.between separated) cursor output) :
    Marked code next (cursor.advance n) (output ++ ⟨[t], faults⟩) := by
  obtain ⟨hnone, hstart, hstop, -, hle⟩ := h.span hc
  have hsettled : next.settled (cursor.advance n) = t.stop := by
    rw [Mode.settled_of_none hnone, Cursor.position_advance hle, hstop]
  rw [← hstart] at htiles
  apply hmarked.advance hle
  · intro column hlt
    rw [Output.tokens_append, standing?_of_lt (by omega),
      standing?_of_lt (by rwa [Mode.settled_between])]
    exact diagnosis?_append_of_lt htiles (by omega)
  · rw [h.characterFaults_eq (t.category.radix?.or (lastRadix? output.tokens)),
      Output.tokens_append]
    have hcode' : code[cursor.position]? = some c :=
      (Cursor.charAt?_of_chars hcode _).symm.trans hc
    rcases h.advance_eq with rfl | hdocumentation
    · show _ = marks _ [cursor.position]
      rw [marks_singleton, standing?_of_covers htiles hsettled (by omega) (by omega) hcode']
    · have hnone : ∀ {radix? column d}, t.verdict radix? column d = none := by
        intro radix? column d
        rw [Token.verdict, hdocumentation]
      rw [hnone]
      refine (marks_eq_nil fun column hcolumn => ?_).symm
      rw [List.mem_range'_1] at hcolumn
      obtain ⟨d, -, hd⟩ := Cursor.exists_charAt?_of_chars hcode (i := column) (by omega)
      rw [standing?_of_covers htiles hsettled (by omega) (by omega) hd, hnone]

/-- A transition carries the radix of a number on. -/
theorem Transition.radix {s : Step} (h : Transition cursor c mode s) (hd : mode.Describes cursor)
    (hc : cursor.current? = some c) {tokens : List Token}
    (hcarried : ∀ {p radix}, mode = .number p radix →
      p.category.radix?.or (lastRadix? tokens) = some radix)
    {p : Pending} {radix : Radix} (hmode : s.mode = .number p radix) :
    p.category.radix?.or (lastRadix? (tokens ++ s.output.tokens)) = some radix := by
  cases h with
  | opens h =>
    cases h with
    | number =>
      injection hmode with hp hradix
      rw [← hp, ← hradix]
      rfl
    | tab | space | capitalized | uncapitalized | doubleQuoted | singleQuoted | symbol =>
      exact nomatch hmode
  | emits h =>
    obtain ⟨hnone, -⟩ := h.span hc
    exact nomatch (congrArg Mode.pending? hmode).symm.trans hnone
  | resumes h =>
    rw [List.append_nil]
    cases h with
    | @digit p radix | @illegalDigit p radix =>
      injection hmode with hp hradix
      rw [← hp, ← hradix]
      exact hcarried (p := p) rfl
    | binaryMark | hexMark =>
      injection hmode with hp hradix
      rw [← hp, ← hradix]
      rfl
    | space | tab | signed | word | illegalInWord | binaryQuoted | hexQuoted | unknownQuoted
    | doubleQuoted | singleQuoted | doubledQuote => exact nomatch hmode
  | closes h =>
    obtain ⟨hbetween, -⟩ := h.span
    exact nomatch (congrArg Mode.isBetween hmode).symm.trans hbetween
  | handsOver h =>
    have hrenders := h.renders hd
    rw [lastRadix?_append_singleton]
    cases h with
    | fraction | secondPoint | repetend | pointless =>
      injection hmode with hp hradix
      rw [← hp, ← hradix, hrenders.radix rfl]
      exact hcarried rfl

/-- The radix of a number goes back to the last integer that was put out, unless the number still
is at its integer. -/
theorem Reaches.radix (h : Reaches code mode cursor output) {p : Pending} {radix : Radix}
    (hmode : mode = .number p radix) :
    p.category.radix?.or (lastRadix? output.tokens) = some radix := by
  induction h generalizing p radix with
  | start => exact nomatch hmode
  | step h hc ih => exact (transition_step h.describes hc).radix h.describes hc ih hmode

/-- The token that ends the one under construction takes its radix over. -/
theorem Renders.radix_eq {t : Token} {radix : Radix} (h : Renders mode cursor t)
    (hreach : Reaches code mode cursor output) (hradix : mode.radix? = some radix) :
    t.category.radix?.or (lastRadix? output.tokens) = some radix := by
  cases mode <;> simp only [Mode.radix?, Option.some.injEq, reduceCtorEq] at hradix
  subst hradix
  rw [h.radix rfl]
  exact hreach.radix rfl

/-- Ending the token under construction reports nothing and changes nothing about its
characters. -/
theorem Renders.marked {t : Token} {p : Pending} {faults : List Fault} (h : Renders mode cursor t)
    (hreach : Reaches code mode cursor output) (hmarked : Marked code mode cursor output)
    (hp : mode.pending? = some p) (hstart : t.start = p.start) (hstop : cursor.position ≤ t.stop)
    (hfaults : characterFaults faults = []) (hle : cursor.position + n ≤ cursor.size)
    (hnext : next.settled (cursor.advance n) = t.stop)
    (hbehind : ∀ column d, t.stop ≤ column → column < cursor.position + n →
      next.verdict column d = none) :
    Marked code next (cursor.advance n) (output ++ ⟨[t], faults⟩) := by
  have hcode := hreach.chars
  have hopen := hreach.describes.start_lt hp
  have hsettled : mode.settled cursor = t.start := by rw [Mode.settled_of_some hp, hstart]
  have htiles := hreach.tiles
  rw [hsettled] at htiles
  apply hmarked.advance hle
  · intro column hlt
    rw [Output.tokens_append]
    by_cases hcolumn : column < t.start
    · rw [standing?_of_lt (by omega), standing?_of_lt (by omega)]
      exact diagnosis?_append_of_lt htiles hcolumn
    · obtain ⟨d, hd, hd'⟩ := Cursor.exists_charAt?_of_chars hcode (i := column) (by omega)
      rw [standing?_of_covers htiles hnext (by omega) (by omega) hd',
        standing?_of_le (by omega) hd']
      exact h.verdict (fun _ => h.radix_eq hreach) (by omega) hlt hd
  · rw [hfaults]
    refine (marks_eq_nil fun column hcolumn => ?_).symm
    rw [List.mem_range'_1] at hcolumn
    obtain ⟨d, hd, hd'⟩ := Cursor.exists_charAt?_of_chars hcode (i := column) (by omega)
    rw [Output.tokens_append]
    by_cases hlt : column < t.stop
    · rw [standing?_of_covers htiles hnext (by omega) hlt hd']
      exact (h.delimiter hcolumn.1 hlt hd).1
    · rw [standing?_of_le (by omega) hd']
      exact hbehind column d (by omega) hcolumn.2

/-- Every transition reports the characters it passes as they stand. -/
theorem Transition.marked {s : Step} (h : Transition cursor c mode s)
    (hreach : Reaches code mode cursor output) (hc : cursor.current? = some c)
    (hmarked : Marked code mode cursor output) :
    Marked code s.mode (cursor.advance s.advance) (output ++ s.output) := by
  have hcode := hreach.chars
  have hd := hreach.describes
  have htiles := hreach.tiles
  have hle := h.advance_le hc
  cases h with
  | opens h => exact h.marked hcode hc hmarked
  | emits h =>
    rw [Mode.settled_between] at htiles
    exact h.marked hcode hc htiles hmarked
  | resumes h => exact h.marked hcode hd hc hle hmarked
  | closes h =>
    obtain ⟨hbetween, -, p, hp, hstart, hstop⟩ := h.span
    have hnext := Mode.pending?_eq_none_of_isBetween hbetween
    refine (h.renders hd hc).marked hreach hmarked hp hstart (by omega) h.characterFaults_eq hle
      ?_ ?_
    · rw [Mode.settled_of_none hnext, Cursor.position_advance hle, hstop]
    · intro column d hcolumn hlt
      dsimp only at hlt
      omega
  | handsOver h =>
    obtain ⟨p, q, hp, hq, hstart, hstop, hnext⟩ := h.span
    refine (h.renders hd).marked hreach hmarked hp hstart (by omega) h.characterFaults_eq hle ?_ ?_
    · rw [Mode.settled_of_some hq, hnext, hstop]
    · intro column d hcolumn hlt
      -- the point or parenthesis leads the next part in
      have hlead : ¬cursor.position + 1 ≤ column := by
        dsimp only at hlt
        omega
      cases h <;> exact if_neg hlead

/-- In every reachable state the characters before the cursor have been reported as they stand. -/
theorem Reaches.marked (h : Reaches code mode cursor output) : Marked code mode cursor output := by
  induction h with
  | start => rfl
  | step h hc ih => exact (transition_step h.describes hc).marked h hc ih

/-- The characters of a line are reported as the tokens that cover them see them, in their order. -/
theorem scan_marks (code : List Char) :
    characterFaults (scan code).faults =
      marks (diagnosis? code (scan code).tokens) (List.range code.length) := by
  obtain ⟨mode, cursor, output, hreach, hend, -, hscan⟩ := exists_reaches_scan code
  -- at the end of the line everything is settled
  have hsettled : ∀ (final : Mode) {whole : Output}, final.settled cursor = cursor.position →
      Marked code final cursor whole →
      characterFaults whole.faults =
        marks (diagnosis? code whole.tokens) (List.range code.length) := by
    intro final whole hsettled hmarked
    rw [hmarked, ← hreach.size, ← hend]
    refine marks_congr fun column hcolumn => standing?_of_lt ?_
    rw [hsettled]
    exact List.mem_range.1 hcolumn
  rw [hscan]
  rcases finishes_finish hreach.describes hend with ⟨hnone, hempty⟩ | ⟨faults, t, hfin, heq⟩
  · rw [hempty, Output.append_empty]
    exact hsettled mode (Mode.settled_of_none hnone) hreach.marked
  · obtain ⟨p, hp, hstart, hstop⟩ := hfin.span
    rw [heq]
    refine hsettled .demarcated rfl ?_
    rw [← Cursor.advance_zero cursor]
    refine (hfin.renders hreach.describes hend).marked hreach hreach.marked hp hstart (by omega)
      hfin.characterFaults_eq (by omega) ?_ ?_
    · rw [Cursor.advance_zero, hstop]
      exact hend
    · intro column d hcolumn hlt
      omega

end

/-! ## Characters that are not reported -/

/-- A token finds fault with every character that has no place in it, unless it is quoted or
documentation. -/
def Heeds (code : List Char) (t : Token) : Prop :=
  ∀ {column c}, t.covers column = true → code[column]? = some c →
    isStray (CharClass.of c) = true → t.category.isQuoting = true ∨ t.category = .documentation ∨
      ∀ radix?, (t.verdict radix? column c).isSome = true

section
variable {code : List Char} {cursor : Cursor} {c : Char} {mode next : Mode} {faults : List Fault}
  {t : Token} {p : Pending} {n : Nat}

theorem Renders.heeds (h : Renders mode cursor t) (hcode : cursor.chars = code.toArray)
    (hd : mode.Describes cursor) (hp : mode.pending? = some p) (hstart : t.start = p.start) :
    Heeds code t := by
  intro column d hcovers hchar hstray
  obtain ⟨hle, hlt⟩ := Token.covers_iff.1 hcovers
  have hchar' : cursor.charAt? column = some d := (Cursor.charAt?_of_chars hcode column).trans hchar
  by_cases hcolumn : column < cursor.position
  · rcases hd.heeds hp hchar' (by omega) hcolumn hstray with hquoted | ⟨hradix, hsome⟩
    · exact .inl (h.quoting hquoted)
    · refine .inr (.inr fun radix? => ?_)
      rw [h.verdict (fun radix hradix' => nomatch hradix.symm.trans hradix') hle hcolumn hchar']
      exact hsome
  · have hdelimiter : t.verdict none column d = none ∧ isStray (CharClass.of d) = false :=
      h.delimiter (Nat.le_of_not_lt hcolumn) hlt hchar'
    exact absurd (hdelimiter.2.symm.trans hstray) Bool.false_ne_true

theorem Emits.heeds (h : Emits cursor c faults t next n) (hcode : cursor.chars = code.toArray)
    (hc : cursor.current? = some c) : Heeds code t := by
  intro column d hcovers hchar hstray
  obtain ⟨hle, hlt⟩ := Token.covers_iff.1 hcovers
  obtain ⟨-, hstart, hstop, -⟩ := h.span hc
  have hfirst : n = 1 → d = c := by
    rintro rfl
    obtain rfl : column = cursor.position := by omega
    exact Option.some.inj ((hchar.symm.trans (Cursor.charAt?_of_chars hcode _).symm).trans hc)
  cases h with
  | symbol hclass =>
    rw [hfirst rfl, isStray_of_isSymbolic hclass] at hstray
    exact absurd hstray Bool.false_ne_true
  | illegal hclass =>
    refine .inr (.inr fun radix? => ?_)
    rw [hfirst rfl, verdict_illegal hclass]
    rfl
  | documentation => exact .inr (.inl rfl)

/-- The tokens of a line find fault with every character that has no place in them. -/
theorem scan_heeds (code : List Char) : ∀ t ∈ (scan code).tokens, Heeds code t := by
  apply scan_induction (P := fun output => ∀ t ∈ output.tokens, Heeds code t)
  case empty => exact fun _ ht => absurd ht List.not_mem_nil
  case append => exact fun ha hb => List.forall_mem_append.2 ⟨ha, hb⟩
  case step =>
    intro mode cursor output c s h hc htransition
    have hd := h.describes
    cases htransition with
    | opens | resumes => exact fun _ ht => absurd ht List.not_mem_nil
    | emits hemits => exact List.forall_mem_singleton.2 (hemits.heeds h.chars hc)
    | closes hcloses =>
      obtain ⟨-, -, p, hp, hstart, -⟩ := hcloses.span
      exact List.forall_mem_singleton.2 ((hcloses.renders hd hc).heeds h.chars hd hp hstart)
    | handsOver hhands =>
      obtain ⟨p, q, hp, -, hstart, -⟩ := hhands.span
      exact List.forall_mem_singleton.2 ((hhands.renders hd).heeds h.chars hd hp hstart)
  case finish =>
    intro mode cursor output faults t h hend hfin
    have hd := h.describes
    obtain ⟨p, hp, hstart, -⟩ := hfin.span
    exact List.forall_mem_singleton.2 ((hfin.renders hd hend).heeds h.chars hd hp hstart)

end

/-! ## Numbers start with an integer -/

/-- Every part of a number has an integer at its place or before it. -/
def Led (tokens : List Token) : Prop :=
  ∀ t ∈ tokens, t.category.isNumber = true → (nearestRadix? tokens t.start).isSome = true

section
variable {code : List Char} {cursor : Cursor} {c : Char} {mode : Mode} {output : Output}
  {tokens : List Token} {t : Token}

theorem Led.append (h : Led tokens) (htiles : Tiles 0 tokens t.start)
    (ht : t.category.isNumber = true →
      (t.category.radix?.or (lastRadix? tokens)).isSome = true) : Led (tokens ++ [t]) := by
  intro u hu hnumber
  rcases List.mem_append.1 hu with hu | hu
  · have hbounds := htiles.bounds u hu
    rw [nearestRadix?_append_of_lt (by omega)]
    exact h u hu hnumber
  · rw [List.mem_singleton.1 hu] at hnumber ⊢
    rw [nearestRadix?_append_of_le htiles (Nat.le_refl _)]
    exact ht hnumber

theorem Renders.led {p : Pending} (h : Renders mode cursor t)
    (hreach : Reaches code mode cursor output) (hled : Led output.tokens)
    (hp : mode.pending? = some p) (hstart : t.start = p.start) : Led (output.tokens ++ [t]) := by
  have htiles := hreach.tiles
  rw [Mode.settled_of_some hp, ← hstart] at htiles
  refine hled.append htiles fun hnumber => ?_
  obtain ⟨radix, hradix⟩ := Option.isSome_iff_exists.1 (h.number hnumber)
  rw [h.radix_eq hreach hradix]
  rfl

theorem Transition.led {s : Step} (h : Transition cursor c mode s)
    (hreach : Reaches code mode cursor output) (hc : cursor.current? = some c)
    (hled : Led output.tokens) : Led (output.tokens ++ s.output.tokens) := by
  have hd := hreach.describes
  have htiles := hreach.tiles
  cases h with
  | opens | resumes => rwa [List.append_nil]
  | emits h =>
    obtain ⟨-, hstart, -⟩ := h.span hc
    rw [Mode.settled_between, ← hstart] at htiles
    refine hled.append htiles fun hnumber => ?_
    cases h with
    | symbol | documentation => exact absurd hnumber Bool.false_ne_true
    | illegal hclass =>
      rw [isNumber_tag rfl] at hnumber
      exact absurd hnumber Bool.false_ne_true
  | closes h =>
    obtain ⟨-, -, p, hp, hstart, -⟩ := h.span
    exact (h.renders hd hc).led hreach hled hp hstart
  | handsOver h =>
    obtain ⟨p, q, hp, -, hstart, -⟩ := h.span
    exact (h.renders hd).led hreach hled hp hstart

theorem Reaches.led (h : Reaches code mode cursor output) : Led output.tokens := by
  induction h with
  | start => exact fun _ ht => absurd ht List.not_mem_nil
  | step h hc ih => exact (transition_step h.describes hc).led h hc ih

/-- In a line, every part of a number has an integer at its place or before it. -/
theorem scan_led (code : List Char) : Led (scan code).tokens := by
  obtain ⟨mode, cursor, output, hreach, hend, -, hscan⟩ := exists_reaches_scan code
  rw [hscan, Output.tokens_append]
  rcases finishes_finish hreach.describes hend with ⟨-, hempty⟩ | ⟨faults, t, hfin, heq⟩
  · rw [hempty]
    show Led (output.tokens ++ [])
    rw [List.append_nil]
    exact hreach.led
  · obtain ⟨p, hp, hstart, -⟩ := hfin.span
    rw [heq]
    exact (hfin.renders hreach.describes hend).led hreach hreach.led hp hstart

end

end Scan

/-- The diagnostics about characters are those that the tokens call for: each character that is out
of place is reported once, in the order of the line, and nothing else is. What digits a part of
a number may have follows from the integer in front of it, which is always there. A tab or a
character without a class that is not reported is quoted or documentation. -/
theorem tokenize_characters (line : Line) :
    line.tokenize.2.filter (fun d => 11 ≤ d.issue ∧ d.issue ≤ 17) =
        (List.range line.code.toList.length).filterMap (fun column =>
          (diagnosis? line.code.toList line.tokenize.1 column).map
            (.ofIssue · (line.columnAt column))) ∧
      (∀ t ∈ line.tokenize.1, t.category.isNumber = true →
        (nearestRadix? line.tokenize.1 t.start).isSome = true) ∧
      ∀ column c, line.code.toList[column]? = some c → c = '\t' ∨ CharClass.of c = .other →
        diagnosis? line.code.toList line.tokenize.1 column = none →
        ∃ t ∈ line.tokenize.1, t.covers column = true ∧
          (t.category.isQuoting = true ∨ t.category = .documentation) := by
  refine ⟨?_, Scan.scan_led line.code.toList, fun column c hc hstray hnone => ?_⟩
  · have hfilter : (Scan.scan line.code.toList).faults.filter
        ((fun d : Diagnostic => decide (11 ≤ d.issue ∧ d.issue ≤ 17)) ∘
          (·.diagnostic line.number line.level)) =
        Scan.characterFaults (Scan.scan line.code.toList).faults := by
      refine List.filter_congr fun fault _ => ?_
      exact Bool.decide_and _ _
    show List.filter _ (List.map _ _) = _
    rw [List.filter_map, hfilter, Scan.scan_marks, Scan.marks, List.map_filterMap]
    refine List.filterMap_congr fun column _ => ?_
    exact Option.map_map _ _ _
  · have hlt : column < line.code.toList.length := (List.getElem?_eq_some_iff.1 hc).1
    obtain ⟨u, hu, hcovers⟩ :=
      (Scan.scan_tiles line.code.toList).exists_covers (Nat.zero_le column) hlt
    have hsome : (line.tokenize.1.find? (·.covers column)).isSome = true :=
      List.find?_isSome.2 ⟨u, hu, hcovers⟩
    obtain ⟨t, ht⟩ := Option.isSome_iff_exists.1 hsome
    have hmem : t ∈ line.tokenize.1 := List.mem_of_find?_eq_some ht
    have hcovers : t.covers column = true := by
      simpa using List.find?_some ht
    have hclass : Scan.isStray (CharClass.of c) = true := by
      rcases hstray with rfl | hother
      · rfl
      · rw [hother]
        rfl
    refine ⟨t, hmem, hcovers, ?_⟩
    rcases Scan.scan_heeds _ t hmem hcovers hc hclass with hquoting | hdocumentation | hverdict
    · exact .inl hquoting
    · exact .inr hdocumentation
    · have hsome' := hverdict (nearestRadix? line.tokenize.1 column)
      rw [diagnosis?, hc, ht] at hnone
      have hnone' : t.verdict (nearestRadix? line.tokenize.1 column) column c = none := hnone
      rw [hnone'] at hsome'
      exact absurd hsome' Bool.false_ne_true

end LineLexer
