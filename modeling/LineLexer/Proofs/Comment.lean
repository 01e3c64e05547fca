import LineLexer.Proofs.Kind
import LineLexer.Proofs.Literal

/-!
# Comments

A hash ends the token under construction as the end of the line does, and takes the rest of the
line into one token of documentation. So a comment changes nothing of what stands in front of it:
neither the tokens nor the errors. Between quotes a hash is a character like any other, and then it
belongs to the literal that is put out at the closing quote or at the end of the line. The mode
in which the text in front of the hash ends decides between the two: `tokenize_comment`.

* `commentToken`: the token of a comment;
* `scan_comment`: the scan of a line that ends in a comment;
* `exists_mem_rest_of_quoted`: a literal that has been opened is put out.
-/

namespace LineLexer

/-- The token of a comment that starts at a column; the comment has its hashes. -/
def commentToken (column : Nat) (comment : List Char) : Token :=
  ⟨.documentation, .text (String.ofList (Text.trim (comment.dropWhile (· = '#')))), column,
    column + comment.length, false⟩

namespace Scan

/-! ## A hash outside of quotes -/

section
variable {cursor : Cursor} {mode : Mode} {front back : List Char}

/-- Documentation takes the rest of the line, and nothing is put out behind it. -/
theorem rest_openDocumentation (hmode : mode.isBetween = true) (hc : cursor.current? = some '#') :
    rest mode cursor = .token (.tag .documentation
      (some (String.ofList (documentationText (cursor.slice cursor.position cursor.size))))
      cursor.position cursor.size false) := by
  have hstep : step mode cursor '#' = openDocumentation cursor := by
    cases mode <;> first | rfl | exact nomatch hmode
  have hend : (cursor.advance (cursor.size - cursor.position)).position =
      (cursor.advance (cursor.size - cursor.position)).size := by
    have hle := cursor.position_le_size
    rw [Cursor.position_advance (by omega), Cursor.size_advance]
    omega
  rw [rest_of_some hc, hstep]
  show _ ++ rest .documentation (cursor.advance (cursor.size - cursor.position)) = _
  rw [rest_of_none (Cursor.current?_eq_none hend)]
  exact Output.append_empty _

/-- Outside of quotes, a hash closes the token under construction and leads between two lexemes. -/
theorem rest_hash (hquoted : mode.isQuoted = false) (hdoc : mode ≠ .documentation)
    (hstart : ∀ p, mode.pending? = some p → p.start < cursor.size)
    (hc : cursor.current? = some '#') :
    ∃ next, next.isBetween = true ∧
      rest mode cursor = mode.closeAt cursor cursor.position ++ rest next cursor := by
  by_cases hblank : ∃ p, mode = .whitespace p
  · obtain ⟨p, rfl⟩ := hblank
    refine ⟨.demarcated, rfl, rest_whitespace_end fun c hc' => ?_⟩
    obtain rfl : '#' = c := Option.some.inj (hc.symm.trans hc')
    decide
  · have hbreakable := Mode.isBreakable_of hquoted hdoc fun p hp => hblank ⟨p, hp⟩
    exact rest_of_breaks hbreakable hstart hc rfl

theorem position_behind (front back : List Char) :
    ((Cursor.ofList (front ++ back)).advance front.length).position = front.length := by
  apply Cursor.position_advance_ofList
  rw [List.length_append]
  exact Nat.le_add_right _ _

theorem current?_behind (front back : List Char) (c : Char) :
    ((Cursor.ofList (front ++ c :: back)).advance front.length).current? = some c := by
  rw [Cursor.current?, position_behind, Cursor.charAt?_advance, Cursor.charAt?_ofList,
    List.getElem?_append_right (Nat.le_refl _), Nat.sub_self, List.getElem?_cons_zero]

theorem head?_hash_ne_quote (back : List Char) : ('#' :: back).head? ≠ some '\'' := by
  rw [List.head?_cons]
  decide

/-- A comment does not change the scan of what stands in front of it. -/
theorem scan_comment (hquoted : (runLine front).mode.isQuoted = false)
    (hdoc : (runLine front).mode ≠ .documentation) :
    scan (front ++ '#' :: back) =
      scan front ++ .token (commentToken front.length ('#' :: back)) := by
  have hhead := head?_hash_ne_quote back
  let cursor := (Cursor.ofList (front ++ '#' :: back)).advance front.length
  have hposition : cursor.position = front.length := position_behind front ('#' :: back)
  have hc : cursor.current? = some '#' := current?_behind front back '#'
  have hsize : cursor.size = front.length + ('#' :: back).length := by
    rw [Cursor.size_advance, Cursor.size_ofList, List.length_append]
  have hslice : cursor.slice front.length cursor.size = '#' :: back := by
    rw [hsize, ← List.length_append, Cursor.slice_advance, Cursor.slice_eq, Cursor.ofList,
      List.toList_toArray, List.take_length, List.drop_left]
  have hstart : ∀ p, (runLine front).mode.pending? = some p → p.start < cursor.size := by
    intro p hp
    have hlt := start_lt_of_runLine hp
    omega
  obtain ⟨next, hnext, hrest⟩ := rest_hash hquoted hdoc hstart hc
  rw [scan_append hhead hdoc, hrest, rest_openDocumentation hnext hc, hposition, hslice, hsize,
    closeAt_front hhead, ← Output.append_assoc]
  rfl

end

/-! ## A hash between quotes -/

section
variable {cursor : Cursor} {c : Char} {mode next : Mode} {faults : List Fault} {n : Nat}
  {p : Pending} {front back : List Char}

theorem Resumes.kind_quoted (h : Resumes cursor c mode faults next n)
    (hkind : mode.kind? = some .quoted) : next.kind? = some .quoted := by
  cases h <;> first | rfl | exact nomatch hkind

theorem Mode.kind?_of_isQuoted (h : mode.isQuoted = true) : mode.kind? = some .quoted := by
  cases mode <;> first | rfl | exact nomatch h

/-- A literal that has been opened is put out, no earlier than at the cursor. -/
theorem exists_mem_rest_of_quoted (hd : mode.Describes cursor)
    (hkind : mode.kind? = some .quoted) (hp : mode.pending? = some p) :
    ∃ t ∈ (rest mode cursor).tokens,
      t.category.kind = .quoted ∧ t.start = p.start ∧ cursor.position ≤ t.stop := by
  induction mode, cursor using run_induction generalizing p with
  | done mode cursor hnone =>
    -- the end of the line closes it
    have hend := Cursor.position_eq_of_current?_eq_none hnone
    rw [rest_of_none hnone]
    rcases finishes_finish hd hend with ⟨hnone, -⟩ | ⟨faults, t, hfin, heq⟩
    · exact nomatch hnone.symm.trans hp
    · obtain ⟨q, hq, hstart, hstop⟩ := hfin.span
      obtain rfl := Option.some.inj (hp.symm.trans hq)
      rw [heq]
      refine ⟨t, List.mem_singleton.2 rfl, ?_, hstart, by omega⟩
      exact Option.some.inj ((hfin.kind_eq hd hend).symm.trans hkind)
  | next mode cursor c hc ih =>
    have htransition := transition_step hd hc
    have hdescribes := htransition.describes hd hc
    have hle := Cursor.position_le_position_advance cursor (step mode cursor c).advance
    rw [rest_of_some hc, Output.tokens_append]
    generalize step mode cursor c = s at htransition hdescribes hle ih
    cases htransition with
    | opens | emits => exact nomatch (Mode.kind?_between _).symm.trans hkind
    | handsOver h => exact nomatch (h.kind_eq hd).1.symm.trans hkind
    | resumes h =>
      obtain ⟨q, q', hq, hq', hstart⟩ := h.pending?
      obtain rfl := Option.some.inj (hp.symm.trans hq)
      obtain ⟨t, ht, hquoted, hstart', hstop⟩ := ih hdescribes (h.kind_quoted hkind) hq'
      exact ⟨t, List.mem_append_right _ ht, hquoted, hstart'.trans hstart, Nat.le_trans hle hstop⟩
    | @closes _ _ _ t _ h =>
      obtain ⟨-, -, q, hq, hstart, hstop⟩ := h.span
      obtain rfl := Option.some.inj (hp.symm.trans hq)
      refine ⟨t, List.mem_append_left _ (List.mem_singleton.2 rfl), ?_, hstart, by omega⟩
      rcases h.kind_eq hd with hsame | ⟨hnumber, -⟩
      · exact Option.some.inj (hsame.symm.trans hkind)
      · exact nomatch hnumber.symm.trans hkind

/-- Between quotes, a hash belongs to the literal. -/
theorem step_hash_of_quoted (hquoted : mode.isQuoted = true) :
    step mode cursor '#' = .next mode .empty := by
  cases mode <;> first | rfl | exact nomatch hquoted

theorem Mode.exists_pending_of_isQuoted (h : mode.isQuoted = true) :
    ∃ p, mode.pending? = some p := by
  cases mode <;> first | exact ⟨_, rfl⟩ | exact nomatch h

/-- Behind an open quote, a hash lies inside a quoted literal. -/
theorem exists_covers_hash (hquoted : (runLine front).mode.isQuoted = true) :
    ∃ t ∈ (scan (front ++ '#' :: back)).tokens,
      t.category.isQuoting = true ∧ t.start ≤ front.length ∧ front.length < t.stop := by
  have hhead := head?_hash_ne_quote back
  have hdoc : (runLine front).mode ≠ .documentation := by
    intro hdoc
    rw [hdoc] at hquoted
    exact nomatch hquoted
  have hc := current?_behind front back '#'
  have hposition := position_behind front ('#' :: back)
  have hdescribes := describes_runLine hhead hdoc
  have hnext := (transition_step hdescribes hc).describes hdescribes hc
  rw [step_hash_of_quoted hquoted] at hnext
  -- the literal is still open behind the hash, and is put out there
  obtain ⟨p, hp⟩ := Mode.exists_pending_of_isQuoted hquoted
  obtain ⟨t, ht, hkind, hstart, hstop⟩ :=
    exists_mem_rest_of_quoted hnext (Mode.kind?_of_isQuoted hquoted) hp
  have hbefore := start_lt_of_runLine hp
  rw [Step.next, Cursor.position_advance_one hc, hposition] at hstop
  refine ⟨t, ?_, Category.kind_eq_quoted_iff.1 hkind, by omega, hstop⟩
  rw [scan_append hhead hdoc, rest_of_some hc, step_hash_of_quoted hquoted]
  exact List.mem_append_right _ ht

end

end Scan

/-- A comment is transparent: behind a text that does not end between quotes or in documentation, it
adds its token to the tokens of the text, and no error. Behind a text that ends between quotes, the
hash lies inside the span of a quoted literal. -/
theorem tokenize_comment (line : Line) (text comment : String) :
    ((Scan.runLine text.toList).mode.isQuoted = false →
        (Scan.runLine text.toList).mode ≠ .documentation →
      (line.withCode (text ++ "#" ++ comment)).tokenize =
        ((line.withCode text).tokenize.1 ++ [commentToken text.length ('#' :: comment.toList)],
          (line.withCode text).tokenize.2)) ∧
      ((Scan.runLine text.toList).mode.isQuoted = true →
        ∃ t ∈ (line.withCode (text ++ "#" ++ comment)).tokenize.1,
          t.category.isQuoting = true ∧ t.start ≤ text.length ∧ text.length < t.stop) := by
  have hcode : (text ++ "#" ++ comment).toList = text.toList ++ '#' :: comment.toList := by
    rw [String.toList_append, String.toList_append, List.append_assoc]
    rfl
  have hlength : text.toList.length = text.length := String.length_toList
  rw [Line.withCode, Line.tokenize, hcode, ← hlength]
  constructor
  · intro hquoted hdoc
    rw [Scan.scan_comment hquoted hdoc]
    refine Prod.ext rfl ?_
    show List.map _ (_ ++ []) = _
    rw [List.append_nil]
    rfl
  · exact Scan.exists_covers_hash

/-- A comment behind an unclosed repetend, and a hash behind an open quote. -/
theorem tokenize_comment_uncompleted :
    ((⟨1, 0, "1.(3## of 'x' ", none⟩ : Line).tokenize =
        ((⟨1, 0, "1.(3", none⟩ : Line).tokenize.1 ++
          [⟨.documentation, .text "of 'x'", 4, 14, false⟩],
          (⟨1, 0, "1.(3", none⟩ : Line).tokenize.2)) ∧
      ∃ t ∈ (⟨1, 0, "f 'a # b", none⟩ : Line).tokenize.1,
        t.category.isQuoting = true ∧ t.start ≤ 5 ∧ 5 < t.stop := by
  have hopen : (Scan.runLine "1.(3".toList).mode = .number ⟨.repetend, 2, 1, false⟩ .decimal := by
    cbv
  have hquoted : (Scan.runLine "f 'a ".toList).mode = .singleQuoted ⟨.rawString, 2, 1, false⟩ := by
    cbv
  constructor
  · exact (tokenize_comment ⟨1, 0, "", none⟩ "1.(3" "# of 'x' ").1 (by rw [hopen]; rfl)
      (by rw [hopen]; exact Scan.Mode.noConfusion)
  · exact (tokenize_comment ⟨1, 0, "", none⟩ "f 'a " " b").2 (by rw [hquoted]; rfl)

end LineLexer
