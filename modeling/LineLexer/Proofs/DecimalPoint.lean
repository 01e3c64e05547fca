import LineLexer.Proofs.NumberParts

/-!
# A second decimal point

A point behind a fraction, or behind a repetend that has not been closed, is one too many: it is
reported together with the part of the number in front of it, and opens another fraction. Behind the
parenthesis of a repetend the number is over, so there a point is a symbol like any other, and
nothing is reported. `tokenize_secondPoint` puts the two together.

* `Line.ReportsPoint`: a point too many is reported;
* `scan_pointsReported`: the points behind fractions and behind open repetends are reported;
* `scan_invalidNumber`, `isBareNumber_of_invalidNumber`: those behind a parenthesis are not.
-/

namespace LineLexer

/-- A point too many in a number is reported, and the location covers a column. -/
def Line.ReportsPoint (line : Line) (column : Nat) : Prop :=
  ∃ start stop, start ≤ column ∧ column < stop ∧
    Diagnostic.ofIssue .invalidNumber (.single ⟨line.number, line.level, start, stop⟩) ∈
      line.tokenize.2

namespace Scan

section
variable {code : List Char} {cursor : Cursor} {c : Char} {mode next : Mode} {faults : List Fault}
  {tokens : List Token} {t : Token} {n : Nat}

/-! ## Points that are reported -/

/-- What no point may follow is part of a number, and no integer. -/
theorem kind_of_open (hopen : t.category = .fraction ∨ t.isUncompleted code = true) :
    t.category.kind = .number ∧ t.category.isInteger = false := by
  rcases hopen with hfraction | huncompleted
  · rw [hfraction]
    exact ⟨rfl, rfl⟩
  · rw [Token.isUncompleted, Bool.and_eq_true, beq_iff_eq] at huncompleted
    rw [huncompleted.1]
    exact ⟨rfl, rfl⟩

/-- A point does not close a fraction, nor a repetend without its parenthesis. -/
theorem Closes.ne_point (h : Closes cursor c mode faults t next n)
    (hcode : cursor.chars = code.toArray) (hd : mode.Describes cursor)
    (hc : cursor.current? = some c)
    (hopen : t.category = .fraction ∨ t.isUncompleted code = true) :
    code[t.stop]? ≠ some '.' := by
  have hkind := (kind_of_open hopen).1
  obtain ⟨p, radix, rfl, hbecomes⟩ := h.exists_becomes hd hkind
  have hchar : code[cursor.position]? = some c := (Cursor.charAt?_of_chars hcode _).symm.trans hc
  have hcategory := hbecomes.category
  cases h with
  | range => exact nomatch hkind
  | repetend hparenthesis hrepetend =>
    rw [hcategory, hrepetend, isUncompleted_of_closed] at hopen
    · exact absurd hopen (by decide)
    · rw [getLast?_raw_delimited hcode (hd.start_lt rfl) hc, hparenthesis]
  | numberGap hgap =>
    rw [stop_closedNumber, hchar]
    rintro ⟨⟩
    exact absurd hgap (by decide)
  | number _ _ hpoint =>
    rw [stop_closedNumber, hchar]
    exact fun heq => hpoint (Option.some.inj heq)

/-- Where a part of a number is handed over at a point, the point is reported, unless the part is an
integer. -/
theorem HandsOver.invalidNumber_mem (h : HandsOver cursor c mode faults t next)
    (hcode : cursor.chars = code.toArray) (hd : mode.Describes cursor)
    (hc : cursor.current? = some c) (hinteger : t.category.isInteger = false)
    (hpoint : code[t.stop]? = some '.') :
    (⟨.invalidNumber, .span t.start (t.stop + 1)⟩ : Fault) ∈ faults := by
  obtain ⟨p, radix, rfl, hbecomes⟩ := h.exists_becomes hd
  have hchar : code[cursor.position]? = some c := (Cursor.charAt?_of_chars hcode _).symm.trans hc
  cases h with
  | fraction _ hfront =>
    rw [hbecomes.category, hfront] at hinteger
    exact nomatch hinteger
  | secondPoint =>
    rw [start_closedNumber, stop_closedNumber]
    exact List.mem_append_right _ List.mem_cons_self
  | repetend hparenthesis | pointless hparenthesis =>
    rw [Pending.stop_token, hchar, hparenthesis] at hpoint
    exact absurd hpoint (by decide)

/-- The points behind fractions and behind repetends without a parenthesis are reported. -/
def PointsReported (code : List Char) (output : Output) : Prop :=
  ∀ t ∈ output.tokens, t.category = .fraction ∨ t.isUncompleted code = true →
    code[t.stop]? = some '.' →
    (⟨.invalidNumber, .span t.start (t.stop + 1)⟩ : Fault) ∈ output.faults

theorem scan_pointsReported (code : List Char) : PointsReported code (scan code) := by
  apply scan_induction
  case empty => exact fun _ ht => absurd ht List.not_mem_nil
  case append =>
    intro a b ha hb t ht hopen hpoint
    rcases List.mem_append.1 ht with ht | ht
    · exact List.mem_append_left _ (ha t ht hopen hpoint)
    · exact List.mem_append_right _ (hb t ht hopen hpoint)
  case step =>
    intro mode cursor output c s h hc htransition
    cases htransition with
    | opens | resumes => exact fun _ ht => absurd ht List.not_mem_nil
    | emits hemits =>
      refine List.forall_mem_singleton.2 fun hopen => ?_
      exact absurd (kind_of_open hopen).1 hemits.kind_ne_number
    | closes hcloses =>
      refine List.forall_mem_singleton.2 fun hopen hpoint => ?_
      exact absurd hpoint (hcloses.ne_point h.chars h.describes hc hopen)
    | handsOver hhands =>
      refine List.forall_mem_singleton.2 fun hopen hpoint => ?_
      exact hhands.invalidNumber_mem h.chars h.describes hc (kind_of_open hopen).2 hpoint
  case finish =>
    intro mode cursor output faults t h hend hfin
    refine List.forall_mem_singleton.2 fun _ hpoint => ?_
    obtain ⟨-, -, -, hstop⟩ := hfin.span
    rw [hstop, h.size, List.getElem?_eq_none (Nat.le_refl _)] at hpoint
    exact nomatch hpoint

/-! ## Points that are not -/

/-- In front of a point that is reported there is a part of the number, a fraction or a repetend
without its parenthesis. -/
theorem scan_invalidNumber (code : List Char) : ∀ fault ∈ (scan code).faults,
    fault.issue = .invalidNumber → ∃ p ∈ (scan code).tokens, p.isBareNumber code = true ∧
      p.category.isInteger = false ∧ fault.place = .span p.start (p.stop + 1) := by
  apply scan_induction (P := fun output => ∀ fault ∈ output.faults,
    fault.issue = .invalidNumber → ∃ p ∈ output.tokens, p.isBareNumber code = true ∧
      p.category.isInteger = false ∧ fault.place = .span p.start (p.stop + 1))
  case empty => exact fun _ hfault => absurd hfault List.not_mem_nil
  case append =>
    intro a b ha hb fault hfault hissue
    rcases List.mem_append.1 hfault with hfault | hfault
    · obtain ⟨p, hp, hpart⟩ := ha fault hfault hissue
      exact ⟨p, List.mem_append_left _ hp, hpart⟩
    · obtain ⟨p, hp, hpart⟩ := hb fault hfault hissue
      exact ⟨p, List.mem_append_right _ hp, hpart⟩
  case step =>
    intro mode cursor output c s h hc htransition fault hfault hissue
    obtain ⟨p, radix, rfl, hinteger, hplace, htokens, -, -⟩ :=
      htransition.of_invalidNumber hfault hissue
    rw [htokens]
    refine ⟨_, List.mem_cons_self, isBareNumber_closedNumber h.chars h.describes, ?_, ?_⟩
    · rwa [category_closedNumber cursor h.describes]
    · rw [hplace, start_closedNumber, stop_closedNumber]
  case finish =>
    intro mode cursor output faults t h hend hfin fault hfault hissue
    exact nomatch (hfin.issue_eq hfault).symm.trans hissue

/-- A fraction or repetend has a part of the number in front of it that has not been closed. -/
theorem Linked.exists_bare (h : Linked code tokens) (ht : t ∈ tokens)
    (hnumber : t.category.isNumber = true) (hinteger : t.category.isInteger = false) :
    ∃ p, p.isBareNumber code = true ∧ [p, t] <:+: tokens := by
  obtain ⟨before?, hcontinues, hrow⟩ := h t ht
  have hcategory : t.category = .fraction ∨ t.category = .repetend := by
    by_contra hneither
    rw [not_or] at hneither
    exact nomatch hinteger.symm.trans (isInteger_of_ne hnumber hneither.1 hneither.2)
  rcases hcategory with hcategory | hcategory <;> rw [hcategory] at hcontinues <;>
    obtain ⟨p, hp, hbare, -⟩ := hcontinues <;> exact ⟨p, hbare, hrow p hp⟩

/-- Behind a parenthesis no point too many is reported. -/
theorem isBareNumber_of_invalidNumber {start stop : Nat} (ht : t ∈ (scan code).tokens)
    (hfault : ⟨.invalidNumber, .span start stop⟩ ∈ (scan code).faults) (hle : start ≤ t.stop)
    (hlt : t.stop < stop) : t.isBareNumber code = true := by
  have htiles := scan_tiles code
  obtain ⟨p, hp, hbare, hinteger, hplace⟩ := scan_invalidNumber code _ hfault rfl
  injection hplace with hstart hstop
  have hbounds := htiles.bounds t ht
  rcases htiles.eq_or_disjoint ht hp with rfl | hleft | hright
  · exact hbare
  · -- the part starts with the point, so it has a part in front of it itself
    rw [Token.isBareNumber, Bool.and_eq_true] at hbare
    obtain ⟨q, hq, hrow⟩ := (scan_linked code).exists_bare hp hbare.1 hinteger
    have hadjacent := stop_eq_of_consecutive htiles hrow
    have hmem : q ∈ (scan code).tokens := hrow.subset List.mem_cons_self
    rwa [htiles.eq_of_stop_eq ht hmem (by omega)]
  · omega

end
end Scan

/-! ## The diagnostics of a line -/

/-- A point right behind a fraction or a repetend is reported, except behind the parenthesis of a
repetend. -/
theorem tokenize_secondPoint (line : Line) (t : Token) (ht : t ∈ line.tokenize.1)
    (hpart : t.category = .fraction ∨ t.category = .repetend)
    (hpoint : line.code.toList[t.stop]? = some '.') :
    line.ReportsPoint t.stop ↔
      t.category = .fraction ∨ t.isUncompleted line.code.toList = true := by
  constructor
  · rintro ⟨start, stop, hle, hlt, hmem⟩
    refine hpart.imp id fun hrepetend => ?_
    have hfault : ⟨.invalidNumber, .span start stop⟩ ∈ (Scan.scan line.code.toList).faults := by
      obtain ⟨⟨issue, place⟩, hfault, heq⟩ := List.mem_map.1 hmem
      injection heq with _ hissue hplace
      obtain rfl := SyntaxIssue.code_injective hissue
      cases place with
      | gap column => exact nomatch hplace
      | span first last =>
        injection hplace with hplace
        injection hplace with _ _ hstart hstop
        rwa [hstart, hstop] at hfault
    have hbare := Scan.isBareNumber_of_invalidNumber ht hfault hle hlt
    rw [Token.isBareNumber, Bool.and_eq_true] at hbare
    rw [Token.isUncompleted, hrepetend, hbare.2]
    rfl
  · intro hopen
    have hfault := Scan.scan_pointsReported line.code.toList t ht hopen hpoint
    have hbounds := (Scan.scan_tiles line.code.toList).bounds t ht
    exact ⟨t.start, t.stop + 1, by omega, by omega, List.mem_map.2 ⟨_, hfault, rfl⟩⟩

/-- A point inside the parentheses of a repetend, which has no closing one. -/
theorem tokenize_secondPoint_uncompleted :
    (⟨.repetend, .text "3", 2, 4, true⟩ : Token) ∈ (⟨1, 0, "0.(3.5", none⟩ : Line).tokenize.1 ∧
      "0.(3.5".toList[4]? = some '.' ∧ (⟨1, 0, "0.(3.5", none⟩ : Line).ReportsPoint 4 := by
  have htokens : (⟨1, 0, "0.(3.5", none⟩ : Line).tokenize.1 =
      [⟨.integer, .text "0", 0, 1, false⟩, ⟨.fraction, .text "", 1, 2, false⟩,
        ⟨.repetend, .text "3", 2, 4, true⟩, ⟨.fraction, .text "5", 4, 6, true⟩] := by cbv
  have hmem : (⟨.repetend, .text "3", 2, 4, true⟩ : Token) ∈
      (⟨1, 0, "0.(3.5", none⟩ : Line).tokenize.1 := by
    rw [htokens]
    exact List.mem_cons_of_mem _ (List.mem_cons_of_mem _ List.mem_cons_self)
  exact ⟨hmem, rfl, (tokenize_secondPoint _ _ hmem (.inr rfl) rfl).2 (.inr (by decide +kernel))⟩

/-- A point behind a closed repetend, with a digit behind it, is overlooked. -/
theorem not_reportsPoint_closed :
    (⟨.repetend, .text "3", 2, 5, false⟩ : Token) ∈ (⟨1, 0, "0.(3).5", none⟩ : Line).tokenize.1 ∧
      "0.(3).5".toList[5]? = some '.' ∧ "0.(3).5".toList[6]? ≠ some '.' ∧
      ¬(⟨1, 0, "0.(3).5", none⟩ : Line).ReportsPoint 5 := by
  have htokens : (⟨1, 0, "0.(3).5", none⟩ : Line).tokenize =
      ([⟨.integer, .text "0", 0, 1, false⟩, ⟨.fraction, .text "", 1, 2, false⟩,
        ⟨.repetend, .text "3", 2, 5, false⟩, .ofSymbol .qualifierOrNumbering 5 6,
        ⟨.integer, .text "5", 6, 7, false⟩], []) := by cbv
  refine ⟨?_, rfl, by decide, ?_⟩
  · rw [htokens]
    exact List.mem_cons_of_mem _ (List.mem_cons_of_mem _ List.mem_cons_self)
  · rintro ⟨start, stop, -, -, hmem⟩
    rw [htokens] at hmem
    exact absurd hmem List.not_mem_nil

end LineLexer
