import LineLexer.Proofs.Accounting
import LineLexer.Proofs.Diagnosis
import LineLexer.Proofs.NumberChain
import LineLexer.Proofs.Numeral

/-!
# Parts of numbers and what is reported about them

The issues about repetends can be read off the tokens: a point is missing exactly where a repetend
stands behind an integer, and a repetend is not complete exactly if its parenthesis is missing. A
part that is not marked is digits of its radix, since a character out of place would be reported
and the fault would mark it.

* `Pointed`: what is known in a reachable state about repetends behind an integer;
* `scan_missingPoints`, `scan_uncompleted`: the faults about repetends;
* `diagnosis?_of_valid`, `legal_of_valid`: the characters of a token that is not marked are in place;
* `tokenize_numberParts`: the same for the tokens and the diagnostics of a line.
-/

namespace LineLexer

/-! ## Neighbours -/

/-- Each token of a list, except for the last, with the one behind it. -/
def neighbours (tokens : List Token) : List (Token × Token) :=
  tokens.zip tokens.tail

theorem neighbours_append_singleton (tokens : List Token) (t : Token) :
    neighbours (tokens ++ [t]) = neighbours tokens ++ (tokens.getLast?.map (·, t)).toList := by
  induction tokens with
  | nil => rfl
  | cons u us ih =>
    cases us with
    | nil => rfl
    | cons v vs =>
      rw [List.getLast?_cons_cons]
      exact congrArg ((u, v) :: ·) ih

/-- A repetend behind an integer, which lacks the point. -/
def isPointless (pair : Token × Token) : Bool :=
  pair.1.category.isInteger && pair.2.category == .repetend

/-- A repetend without its closing parenthesis. -/
def Token.isUncompleted (code : List Char) (t : Token) : Bool :=
  t.category == .repetend && (t.raw code).getLast? != some ')'

namespace Scan

/-! ## Repetends without a point -/

/-- The faults of one issue. -/
def faultsOf (issue : SyntaxIssue) (faults : List Fault) : List Fault :=
  faults.filter (·.issue = issue)

/-- The fault of a repetend that starts at a column, if an integer stands in front of it. -/
def missingPoint (before? : Option Token) (category : Category) (start : Nat) : List Fault :=
  (before?.toList.filter fun p => p.category.isInteger && category == .repetend).map
    fun p => ⟨.missingDecimalPoint, .span p.start (start + 1)⟩

/-- The faults of the repetends that stand behind an integer. -/
def missingPoints (tokens : List Token) : List Fault :=
  ((neighbours tokens).filter isPointless).map
    fun pair => ⟨.missingDecimalPoint, .span pair.1.start (pair.2.start + 1)⟩

/-- The fault of a repetend under construction. -/
def Mode.missingPoint (before? : Option Token) : Mode → List Fault
  | .number p _ => Scan.missingPoint before? p.category p.start
  | _ => []

/-- What is known in a reachable state about repetends behind an integer: those that have been put
out and the one under construction have been reported. -/
def Pointed (mode : Mode) (output : Output) : Prop :=
  faultsOf .missingDecimalPoint output.faults =
    missingPoints output.tokens ++ mode.missingPoint output.tokens.getLast?

section
variable {code : List Char} {cursor : Cursor} {c : Char} {mode next : Mode} {faults : List Fault}
  {t : Token} {n start : Nat} {before? : Option Token} {category : Category} {issue : SyntaxIssue}
  {p : Pending} {radix : Radix} {output : Output}

theorem faultsOf_eq_nil (h : ∀ fault ∈ faults, fault.issue ≠ issue) : faultsOf issue faults = [] :=
  List.filter_eq_nil_iff.2 fun fault hfault heq => h fault hfault (of_decide_eq_true heq)

theorem faultsOf_eq_nil_of_isPartIssue (hissue : isPartIssue issue = true)
    (h : ∀ fault ∈ faults, isPartIssue fault.issue = false) : faultsOf issue faults = [] := by
  refine faultsOf_eq_nil fun fault hfault heq => ?_
  rw [← heq, h fault hfault] at hissue
  exact nomatch hissue

theorem missingPoint_eq_nil (h : category ≠ .repetend) :
    missingPoint before? category start = [] := by
  have hnone : before?.toList.filter (fun p => p.category.isInteger && category == .repetend) =
      [] := by
    refine List.filter_eq_nil_iff.2 fun p _ hp => h ?_
    rw [Bool.and_eq_true, beq_iff_eq] at hp
    exact hp.2
  rw [missingPoint, hnone]
  rfl

theorem Mode.missingPoint_of_pending?_eq_none (h : mode.pending? = none) :
    mode.missingPoint before? = [] := by
  cases mode <;> first | rfl | exact nomatch h

theorem missingPoints_concat (tokens : List Token) (t : Token) :
    missingPoints (tokens ++ [t]) =
      missingPoints tokens ++ missingPoint tokens.getLast? t.category t.start := by
  rw [missingPoints, neighbours_append_singleton, List.filter_append, List.map_append]
  cases tokens.getLast? with
  | none => rfl
  | some p =>
    show _ ++ ([(p, t)].filter isPointless).map _ =
      _ ++ ([p].filter fun p => p.category.isInteger && t.category == .repetend).map _
    rw [List.filter_singleton, List.filter_singleton]
    show _ ++ (bif p.category.isInteger && t.category == .repetend then [(p, t)] else []).map _ = _
    cases p.category.isInteger && t.category == .repetend <;> rfl

/-- Without a new token, the repetend under construction is the same, and nothing is reported. -/
theorem Pointed.silent (h : Pointed mode output)
    (hfaults : faultsOf .missingDecimalPoint faults = [])
    (hnext : ∀ before?, next.missingPoint before? = mode.missingPoint before?) :
    Pointed next (output ++ ⟨[], faults⟩) := by
  have htokens : (output ++ ⟨[], faults⟩ : Output).tokens = output.tokens := List.append_nil _
  show List.filter _ (output.faults ++ faults) = _
  rw [htokens, hnext, ← h, List.filter_append]
  show _ ++ faultsOf .missingDecimalPoint faults = _
  rw [hfaults, List.append_nil]
  rfl

/-- A token that is put out was the one under construction, and what is reported is about the next
one. -/
theorem Pointed.emitted (h : Pointed mode output)
    (ht : ∀ before?, mode.missingPoint before? = missingPoint before? t.category t.start)
    (hfaults : faultsOf .missingDecimalPoint faults = next.missingPoint (some t)) :
    Pointed next (output ++ ⟨[t], faults⟩) := by
  show List.filter _ (output.faults ++ faults) = _
  rw [Output.tokens_append, missingPoints_concat, List.getLast?_concat, ← hfaults, ← ht, ← h,
    List.filter_append]
  rfl

theorem Opens.missingPoint_eq {separated : Bool} (h : Opens cursor c separated faults next) :
    next.missingPoint before? = [] := by
  cases h with
  | number => exact missingPoint_eq_nil (Category.noConfusion)
  | _ => rfl

theorem Resumes.missingPoint_eq (h : Resumes cursor c mode faults next n) :
    next.missingPoint before? = mode.missingPoint before? := by
  cases h with
  | @binaryMark p _ hzero | @hexMark p _ hzero =>
    -- the zero was no repetend, and the number that it leads in is none either
    have hinteger : p.category = .integer := by
      simp only [isLoneZero, Bool.and_eq_true, beq_iff_eq] at hzero
      exact hzero.1.1
    show missingPoint _ _ _ = missingPoint _ p.category _
    rw [hinteger]
    exact (missingPoint_eq_nil (by rintro ⟨⟩)).trans (missingPoint_eq_nil (by rintro ⟨⟩)).symm
  | _ => rfl

theorem Pending.Becomes.missingPoint_eq (h : p.Becomes t) :
    missingPoint before? p.category p.start = missingPoint before? t.category t.start := by
  rw [h.category, h.start]

theorem missingPoint_of_kind (h : category.kind ≠ .number) :
    missingPoint before? category start = [] :=
  missingPoint_eq_nil fun hrepetend => h (hrepetend ▸ rfl)

theorem Closes.missingPoint_eq (h : Closes cursor c mode faults t next n)
    (hd : mode.Describes cursor) :
    mode.missingPoint before? = missingPoint before? t.category t.start := by
  by_cases hkind : t.category.kind = .number
  · obtain ⟨p, radix, rfl, hbecomes⟩ := h.exists_becomes hd hkind
    exact hbecomes.missingPoint_eq
  · rw [missingPoint_of_kind hkind]
    cases h with
    | range _ hfraction =>
      show missingPoint _ _ _ = []
      rw [hfraction]
      exact missingPoint_eq_nil (by rintro ⟨⟩)
    | repetend => exact absurd (NumberText.kind_token hd _ _) hkind
    | numberGap | number => exact absurd (NumberText.kind_closedNumber hd _) hkind
    | _ => rfl

theorem HandsOver.missingPoint_eq (h : HandsOver cursor c mode faults t next)
    (hd : mode.Describes cursor) :
    mode.missingPoint before? = missingPoint before? t.category t.start := by
  obtain ⟨p, radix, rfl, hbecomes⟩ := h.exists_becomes hd
  exact hbecomes.missingPoint_eq

theorem Finishes.missingPoint_eq (h : Finishes cursor mode faults t) (hd : mode.Describes cursor)
    (hend : cursor.position = cursor.size) :
    mode.missingPoint before? = missingPoint before? t.category t.start := by
  by_cases hkind : t.category.kind = .number
  · obtain ⟨p, radix, rfl, hbecomes⟩ := h.exists_becomes hd hend hkind
    exact hbecomes.missingPoint_eq
  · rw [missingPoint_of_kind hkind]
    cases h with
    | number => exact absurd (NumberText.kind_closedNumber hd _) hkind
    | _ => rfl

/-- A missing point is reported where the repetend is opened. -/
theorem HandsOver.faultsOf_missingPoint (h : HandsOver cursor c mode faults t next)
    (hd : mode.Describes cursor) :
    faultsOf .missingDecimalPoint faults = next.missingPoint (some t) := by
  obtain ⟨p, radix, rfl, hbecomes⟩ := h.exists_becomes hd
  have hcategory := hbecomes.category
  cases h with
  | fraction => exact (missingPoint_eq_nil (by rintro ⟨⟩)).symm
  | secondPoint =>
    refine (faultsOf_eq_nil fun fault hfault => ?_).trans (missingPoint_eq_nil (by rintro ⟨⟩)).symm
    rcases List.mem_append.1 hfault with hfault | hfault
    · rw [issue_of_mem_closingFaults hfault]
      decide
    · rw [List.mem_singleton.1 hfault]
      exact nofun
  | repetend _ hfraction =>
    show [] = missingPoint _ .repetend _
    rw [missingPoint, Option.toList_some, List.filter_singleton, hcategory, hfraction]
    rfl
  | pointless _ hfraction hrepetend =>
    have hinteger := isInteger_of_ne (NumberText.isNumber hd) hfraction hrepetend
    show [_] = missingPoint _ .repetend _
    rw [missingPoint, Option.toList_some, List.filter_singleton, hcategory, hinteger, Bool.true_and]
    show _ = [(⟨_, .span (p.token cursor cursor.position cursor.position).start _⟩ : Fault)]
    rw [Pending.start_token]

/-- Every transition reports the repetends that it opens behind an integer. -/
theorem Transition.pointed {s : Step} (h : Transition cursor c mode s)
    (hd : mode.Describes cursor) (hc : cursor.current? = some c) (hpointed : Pointed mode output) :
    Pointed s.mode (output ++ s.output) := by
  have hbetween : ∀ {separated : Bool} {before? : Option Token},
      (Mode.between separated).missingPoint before? = [] := by
    intro separated before?
    cases separated <;> rfl
  cases h with
  | opens h =>
    apply hpointed.silent (faultsOf_eq_nil_of_isPartIssue rfl fun _ => h.isPartIssue_eq_false)
    intro before?
    rw [h.missingPoint_eq, hbetween]
  | emits h =>
    refine hpointed.emitted (fun before? => ?_) ?_
    · rw [hbetween, missingPoint_of_kind h.kind_ne_number]
    · rw [Mode.missingPoint_of_pending?_eq_none (h.span hc).1]
      exact faultsOf_eq_nil_of_isPartIssue rfl fun _ => h.isPartIssue_eq_false
  | resumes h =>
    exact hpointed.silent (faultsOf_eq_nil_of_isPartIssue rfl fun _ => h.isPartIssue_eq_false)
      fun _ => h.missingPoint_eq
  | closes h =>
    obtain ⟨hbetween, -⟩ := h.span
    refine hpointed.emitted (fun _ => h.missingPoint_eq hd) ?_
    rw [Mode.missingPoint_of_pending?_eq_none (Mode.pending?_eq_none_of_isBetween hbetween)]
    refine faultsOf_eq_nil fun fault hfault hissue => ?_
    have hclosed := h.issue_eq hfault (by rw [hissue]; rfl)
    exact nomatch hissue.symm.trans hclosed
  | handsOver h =>
    exact hpointed.emitted (fun _ => h.missingPoint_eq hd) (h.faultsOf_missingPoint hd)

theorem Reaches.pointed (h : Reaches code mode cursor output) : Pointed mode output := by
  induction h with
  | start => rfl
  | step h hc ih => exact (transition_step h.describes hc).pointed h.describes hc ih

/-- In a line, a missing point is reported for each repetend behind an integer, and for nothing
else. -/
theorem scan_missingPoints (code : List Char) :
    faultsOf .missingDecimalPoint (scan code).faults = missingPoints (scan code).tokens := by
  obtain ⟨mode, cursor, output, hreach, hend, -, hscan⟩ := exists_reaches_scan code
  rw [hscan]
  rcases finishes_finish hreach.describes hend with ⟨hnone, hempty⟩ | ⟨faults, t, hfin, heq⟩
  · have hpointed : faultsOf _ _ = _ := hreach.pointed
    rw [Mode.missingPoint_of_pending?_eq_none hnone, List.append_nil] at hpointed
    rw [hempty, Output.append_empty]
    exact hpointed
  · have hnone : faultsOf .missingDecimalPoint faults = [] := by
      refine faultsOf_eq_nil fun fault hfault => ?_
      rw [hfin.issue_eq hfault]
      decide
    have hpointed : Pointed .demarcated (output ++ ⟨[t], faults⟩) :=
      hreach.pointed.emitted (fun _ => hfin.missingPoint_eq hreach.describes hend) hnone
    rw [heq, hpointed]
    exact List.append_nil _

end

/-! ## Repetends without a parenthesis -/

/-- The faults of the repetends without their closing parenthesis. -/
def uncompleted (code : List Char) (tokens : List Token) : List Fault :=
  (tokens.filter (·.isUncompleted code)).map fun t =>
    ⟨.uncompletedRepetend, .span t.start t.stop⟩

section
variable {code : List Char} {cursor : Cursor} {c : Char} {mode next : Mode} {faults : List Fault}
  {t : Token} {n : Nat} {p : Pending} {radix : Radix}

theorem uncompleted_append (tokens more : List Token) :
    uncompleted code (tokens ++ more) = uncompleted code tokens ++ uncompleted code more := by
  rw [uncompleted, List.filter_append, List.map_append]
  rfl

theorem uncompleted_singleton (h : t.isUncompleted code = false) : uncompleted code [t] = [] := by
  rw [uncompleted, List.filter_singleton, h]
  rfl

theorem isUncompleted_of_closed (h : (t.raw code).getLast? = some ')') :
    t.isUncompleted code = false := by
  rw [Token.isUncompleted, h, bne_self_eq_false, Bool.and_false]

theorem isUncompleted_of_ne (h : t.category ≠ .repetend) : t.isUncompleted code = false := by
  rw [Token.isUncompleted, beq_eq_false_iff_ne.2 h, Bool.false_and]

theorem isUncompleted_of_kind (h : t.category.kind ≠ .number) : t.isUncompleted code = false :=
  isUncompleted_of_ne fun hrepetend => h (hrepetend ▸ rfl)

/-- A repetend that ends where its digits end is reported. -/
theorem faultsOf_closingFaults (hcode : cursor.chars = code.toArray)
    (hd : (Mode.number p radix).Describes cursor) :
    faultsOf .uncompletedRepetend (closingFaults p cursor.position) =
      uncompleted code [closedNumber cursor p cursor.position] := by
  have hbare := isBareNumber_closedNumber hcode hd
  have hcategory := category_closedNumber cursor hd cursor.position
  rw [Token.isBareNumber, Bool.and_eq_true] at hbare
  unfold closingFaults
  split
  · next hrepetend =>
    have huncompleted : (closedNumber cursor p cursor.position).isUncompleted code = true := by
      rw [Token.isUncompleted, hcategory, hrepetend, hbare.2]
      rfl
    rw [uncompleted, List.filter_singleton, huncompleted]
    show _ = [(⟨_, .span (closedNumber _ p _).start (closedNumber _ p _).stop⟩ : Fault)]
    rw [start_closedNumber, stop_closedNumber]
    rfl
  · next hrepetend =>
    exact (uncompleted_singleton (isUncompleted_of_ne (hcategory ▸ hrepetend))).symm

theorem Closes.faultsOf_uncompleted (h : Closes cursor c mode faults t next n)
    (hcode : cursor.chars = code.toArray) (hd : mode.Describes cursor)
    (hc : cursor.current? = some c) :
    faultsOf .uncompletedRepetend faults = uncompleted code [t] := by
  by_cases hkind : t.category.kind = .number
  · obtain ⟨p, radix, rfl, -⟩ := h.exists_becomes hd hkind
    cases h with
    | range => exact nomatch hkind
    | repetend hparenthesis =>
      refine (uncompleted_singleton (isUncompleted_of_closed ?_)).symm
      rw [getLast?_raw_delimited hcode (hd.start_lt rfl) hc, hparenthesis]
    | numberGap | number => exact faultsOf_closingFaults hcode hd
  · rw [uncompleted_singleton (isUncompleted_of_kind hkind)]
    cases h with
    | numberGap | number => exact absurd (NumberText.kind_closedNumber hd _) hkind
    | _ => rfl

theorem HandsOver.faultsOf_uncompleted (h : HandsOver cursor c mode faults t next)
    (hcode : cursor.chars = code.toArray) (hd : mode.Describes cursor) :
    faultsOf .uncompletedRepetend faults = uncompleted code [t] := by
  obtain ⟨p, radix, rfl, hbecomes⟩ := h.exists_becomes hd
  have hnone (hne : p.category ≠ .repetend) : uncompleted code [t] = [] :=
    uncompleted_singleton (isUncompleted_of_ne (hbecomes.category ▸ hne))
  cases h with
  | fraction _ hinteger =>
    refine (hnone fun hrepetend => ?_).symm
    rw [hrepetend] at hinteger
    exact nomatch hinteger
  | repetend _ hfraction =>
    refine (hnone fun hrepetend => ?_).symm
    exact nomatch hfraction.symm.trans hrepetend
  | pointless _ _ hrepetend => exact (hnone hrepetend).symm
  | secondPoint =>
    rw [← faultsOf_closingFaults hcode hd, faultsOf, List.filter_append]
    exact List.append_nil _

theorem Finishes.faultsOf_uncompleted (h : Finishes cursor mode faults t)
    (hcode : cursor.chars = code.toArray) (hd : mode.Describes cursor)
    (hend : cursor.position = cursor.size) :
    faultsOf .uncompletedRepetend faults = uncompleted code [t] := by
  by_cases hkind : t.category.kind = .number
  · obtain ⟨p, radix, rfl, -⟩ := h.exists_becomes hd hend hkind
    cases h with
    | number =>
      rw [← hend]
      exact faultsOf_closingFaults hcode hd
  · rw [uncompleted_singleton (isUncompleted_of_kind hkind)]
    cases h with
    | number => exact absurd (NumberText.kind_closedNumber hd _) hkind
    | _ => rfl

/-- In a line, the repetends without their parenthesis are reported, each over its span, and
nothing else is. -/
theorem scan_uncompleted (code : List Char) :
    faultsOf .uncompletedRepetend (scan code).faults = uncompleted code (scan code).tokens := by
  apply scan_induction (P := fun output =>
    faultsOf .uncompletedRepetend output.faults = uncompleted code output.tokens)
  case empty => rfl
  case append =>
    intro a b ha hb
    rw [Output.tokens_append, uncompleted_append, ← ha, ← hb]
    exact List.filter_append ..
  case step =>
    intro mode cursor output c s h hc htransition
    cases htransition with
    | opens hopens =>
      exact faultsOf_eq_nil_of_isPartIssue rfl fun _ => hopens.isPartIssue_eq_false
    | emits hemits =>
      rw [uncompleted_singleton (isUncompleted_of_kind hemits.kind_ne_number)]
      exact faultsOf_eq_nil_of_isPartIssue rfl fun _ => hemits.isPartIssue_eq_false
    | resumes hresumes =>
      exact faultsOf_eq_nil_of_isPartIssue rfl fun _ => hresumes.isPartIssue_eq_false
    | closes hcloses => exact hcloses.faultsOf_uncompleted h.chars h.describes hc
    | handsOver hhands => exact hhands.faultsOf_uncompleted h.chars h.describes
  case finish =>
    intro mode cursor output faults t h hend hfin
    exact hfin.faultsOf_uncompleted h.chars h.describes hend

end

/-! ## Parts without a mark -/

section
variable {code : List Char} {tokens : List Token} {t u : Token} {a b column : Nat}

theorem getElem?_raw (code : List Char) (t : Token) (i : Nat) :
    (t.raw code)[i]? = if t.start + i < t.stop then code[t.start + i]? else none := by
  rw [Token.raw, List.getElem?_drop, List.getElem?_take]

/-- Two tokens with a column in common are the same. -/
theorem eq_of_overlap (h : Tiles a tokens b) (ht : t ∈ tokens) (hu : u ∈ tokens)
    (hbefore : t.start < u.stop) (hbehind : u.start < t.stop) : t = u := by
  rcases h.eq_or_disjoint ht hu with heq | hleft | hright
  · exact heq
  · omega
  · omega

theorem find?_covers (h : Tiles a tokens b) (ht : t ∈ tokens) (hcovers : t.covers column = true) :
    tokens.find? (·.covers column) = some t := by
  have hsome : (tokens.find? (·.covers column)).isSome = true :=
    List.find?_isSome.2 ⟨t, ht, hcovers⟩
  obtain ⟨u, hu⟩ := Option.isSome_iff_exists.1 hsome
  have hcovers' : u.covers column = true := by simpa using List.find?_some hu
  have hcolumn := Token.covers_iff.1 hcovers
  have hcolumn' := Token.covers_iff.1 hcovers'
  rw [hu, eq_of_overlap h ht (List.mem_of_find?_eq_some hu) (by omega) (by omega)]

/-- A token has one radix for all its columns. -/
theorem nearestRadix?_of_covers (h : Tiles a tokens b) (ht : t ∈ tokens)
    (hcovers : t.covers column = true) :
    nearestRadix? tokens column = nearestRadix? tokens t.start := by
  have hbounds := Token.covers_iff.1 hcovers
  refine congrArg lastRadix? (List.filter_congr fun u hu => decide_eq_decide.2 ?_)
  have hpositive := h.bounds u hu
  rcases h.eq_or_disjoint ht hu with rfl | hleft | hright <;> omega

/-- The characters of a token that is not marked are in place. -/
theorem diagnosis?_of_valid (ht : t ∈ (scan code).tokens) (hvalid : t.invalid = false)
    (hcovers : t.covers column = true) : diagnosis? code (scan code).tokens column = none := by
  have htiles := scan_tiles code
  have hbounds := htiles.bounds t ht
  have hcolumn := Token.covers_iff.1 hcovers
  refine Option.eq_none_iff_forall_ne_some.2 fun issue hissue => ?_
  -- it would be reported, and the fault would mark the token
  have hmem : Fault.at column issue ∈ characterFaults (scan code).faults := by
    rw [scan_marks]
    refine List.mem_filterMap.2 ⟨column, List.mem_range.2 (by omega), ?_⟩
    rw [hissue]
    rfl
  obtain ⟨hfault, hcharacter⟩ := List.mem_filter.1 hmem
  rcases scan_accounted hfault rfl with ⟨u, hu, hinvalid, hbefore, hbehind⟩ | herased
  · obtain rfl := eq_of_overlap htiles ht hu (by omega) (by omega)
    exact nomatch hvalid.symm.trans hinvalid
  · have hexcess : issue = .invalidNumber := herased.issue
    rw [hexcess] at hcharacter
    exact nomatch hcharacter

/-- A character that no issue is taken with is a digit. -/
theorem Radix.accepts_of_issue? {radix : Radix} {c : Char} (h : radix.issue? c = none) :
    radix.accepts c = true := by
  unfold Radix.issue? at h
  split at h
  · assumption
  · cases h

/-- In a part of a number that is not marked, the lexeme consists of digits of the radix. -/
theorem legal_of_valid {front digits back : List Char} (ht : t ∈ (scan code).tokens)
    (hnumber : t.category.isNumber = true) (hvalid : t.invalid = false)
    (hraw : t.raw code = front ++ digits ++ back) (hlead : front.length = t.category.lead)
    (hlexeme : t.lexeme = .text (String.ofList digits)) :
    ∃ radix, nearestRadix? (scan code).tokens t.start = some radix ∧ radix.Legal digits := by
  have htiles := scan_tiles code
  obtain ⟨radix, hradix⟩ := Option.isSome_iff_exists.1 (scan_led code t ht hnumber)
  refine ⟨radix, hradix, fun c hc => ?_⟩
  obtain ⟨i, hi, rfl⟩ := List.getElem_of_mem hc
  have hchar : (t.raw code)[front.length + i]? = some digits[i] := by
    rw [hraw, List.append_assoc, List.getElem?_append_right (Nat.le_add_right _ _),
      Nat.add_sub_cancel_left, List.getElem?_append_left hi, List.getElem?_eq_getElem hi]
  rw [getElem?_raw] at hchar
  split at hchar
  case isFalse => cases hchar
  case isTrue hlt =>
    have hcovers : t.covers (t.start + (front.length + i)) = true :=
      Token.covers_iff.2 ⟨Nat.le_add_right _ _, hlt⟩
    have hinside : t.coversLexeme (t.start + (front.length + i)) = true := by
      have hlength : t.lexeme.spelling.length = digits.length := by
        rw [hlexeme]
        exact String.length_ofList
      rw [Token.coversLexeme, hlength, ← hlead, Bool.and_eq_true, decide_eq_true_eq,
        decide_eq_true_eq]
      omega
    have hnone := diagnosis?_of_valid ht hvalid hcovers
    rw [diagnosis?, hchar, find?_covers htiles ht hcovers] at hnone
    have hverdict : t.verdict (nearestRadix? (scan code).tokens (t.start + (front.length + i)))
        (t.start + (front.length + i)) digits[i] = none := hnone
    rw [nearestRadix?_of_covers htiles ht hcovers, hradix, verdict_of_isNumber hnumber,
      if_pos hinside] at hverdict
    exact Radix.accepts_iff.1 (Radix.accepts_of_issue? hverdict)

/-- A repetend that is not marked has its parenthesis. -/
theorem isUncompleted_of_valid (ht : t ∈ (scan code).tokens) (hvalid : t.invalid = false) :
    t.isUncompleted code = false := by
  refine eq_false_of_ne_true fun huncompleted => ?_
  have hmem : (⟨.uncompletedRepetend, .span t.start t.stop⟩ : Fault) ∈
      faultsOf .uncompletedRepetend (scan code).faults := by
    rw [scan_uncompleted]
    exact List.mem_map.2 ⟨t, List.mem_filter.2 ⟨ht, huncompleted⟩, rfl⟩
  rcases scan_accounted (List.mem_of_mem_filter hmem) rfl with ⟨u, hu, hinvalid, hmeets⟩ | herased
  · obtain rfl := eq_of_overlap (scan_tiles code) ht hu hmeets.1 hmeets.2
    exact nomatch hvalid.symm.trans hinvalid
  · exact nomatch herased.issue

/-- A repetend that is not marked is digits in parentheses. -/
theorem repetend_of_valid (ht : t ∈ (scan code).tokens) (hrepetend : t.category = .repetend)
    (hvalid : t.invalid = false) :
    ∃ radix digits, nearestRadix? (scan code).tokens t.start = some radix ∧
      t.raw code = '(' :: digits ++ [')'] ∧ t.lexeme = .text (String.ofList digits) ∧
      radix.Legal digits := by
  have hfaithful := scan_faithful code t ht
  simp only [Token.Faithful, hrepetend] at hfaithful
  obtain ⟨digits, hclosed | hopen, hmem, hlexeme⟩ := hfaithful
  · have hraw : t.raw code = ['('] ++ digits ++ [')'] := hclosed
    have hnumber : t.category.isNumber = true := hrepetend ▸ rfl
    obtain ⟨radix, hradix, hlegal⟩ :=
      legal_of_valid ht hnumber hvalid hraw (hrepetend ▸ rfl) hlexeme
    exact ⟨radix, digits, hradix, hclosed, hlexeme, hlegal⟩
  · have hcompleted := isUncompleted_of_valid ht hvalid
    have hlast : (t.raw code).getLast? ≠ some ')' := by
      intro hlast
      rw [hopen] at hlast
      rcases List.mem_cons.1 (List.mem_of_getLast? hlast) with hleft | hright
      · exact absurd hleft (by decide)
      · exact hmem hright
    rw [Token.isUncompleted, hrepetend, bne_iff_ne.2 hlast] at hcompleted
    exact absurd hcompleted (by decide)

end
end Scan

/-! ## The diagnostics of a line -/

/-- The diagnostics of an issue are those of its faults. -/
theorem Line.filter_diagnostics (line : Line) (issue : SyntaxIssue) :
    line.tokenize.2.filter (·.issue = issue.code) =
      (Scan.faultsOf issue (Scan.scan line.code.toList).faults).map
        (·.diagnostic line.number line.level) := by
  show List.filter _ (List.map _ _) = _
  rw [List.filter_map]
  refine congrArg _ (List.filter_congr fun fault _ => decide_eq_decide.2 ?_)
  exact ⟨SyntaxIssue.code_injective, congrArg SyntaxIssue.code⟩

/-- The parts of numbers in a line. A fraction is right behind another part of a number, which is an
integer unless the fraction is marked; a repetend is right behind a fraction or an integer, and
unless it is marked, it is behind a fraction and consists of digits of its radix in parentheses. A
point is reported as missing for each repetend behind an integer, and a repetend as not complete for
each one without its parenthesis; both in the order of the line, and nowhere else. -/
theorem tokenize_numberParts (line : Line) :
    (∀ t ∈ line.tokenize.1, t.category = .fraction →
        ∃ p, [p, t] <:+: line.tokenize.1 ∧ p.stop = t.start ∧ p.category.isNumber = true ∧
          (t.invalid = false → p.category.isInteger = true)) ∧
      (∀ t ∈ line.tokenize.1, t.category = .repetend →
        ∃ p, [p, t] <:+: line.tokenize.1 ∧ p.stop = t.start ∧
          (p.category = .fraction ∨ p.category.isInteger = true) ∧
          (t.invalid = false → p.category = .fraction ∧
            ∃ radix digits, nearestRadix? line.tokenize.1 t.start = some radix ∧
              t.raw line.code.toList = '(' :: digits ++ [')'] ∧
              t.lexeme = .text (String.ofList digits) ∧ radix.Legal digits)) ∧
      line.tokenize.2.filter (·.issue = SyntaxIssue.missingDecimalPoint.code) =
        ((neighbours line.tokenize.1).filter isPointless).map (fun (p, t) =>
          .ofIssue .missingDecimalPoint
            (.single ⟨line.number, line.level, p.start, t.start + 1⟩)) ∧
      line.tokenize.2.filter (·.issue = SyntaxIssue.uncompletedRepetend.code) =
        (line.tokenize.1.filter (·.isUncompleted line.code.toList)).map fun t =>
          .ofIssue .uncompletedRepetend (.single ⟨line.number, line.level, t.start, t.stop⟩) := by
  have hadjacent {p t : Token} (h : [p, t] <:+: line.tokenize.1) : p.stop = t.start :=
    Scan.stop_eq_of_consecutive (Scan.scan_tiles line.code.toList) h
  refine ⟨fun t ht hfraction => ?_, fun t ht hrepetend => ?_, ?_, ?_⟩
  · obtain ⟨before?, hcontinues, hrow⟩ := Scan.scan_linked line.code.toList t ht
    rw [hfraction] at hcontinues
    obtain ⟨p, hp, hbare, hinteger⟩ := hcontinues
    refine ⟨p, hrow p hp, hadjacent (hrow p hp), ?_, hinteger⟩
    rw [Token.isBareNumber, Bool.and_eq_true] at hbare
    exact hbare.1
  · obtain ⟨before?, hcontinues, hrow⟩ := Scan.scan_linked line.code.toList t ht
    rw [hrepetend] at hcontinues
    obtain ⟨p, hp, -, hpart, hfraction⟩ := hcontinues
    exact ⟨p, hrow p hp, hadjacent (hrow p hp), hpart, fun hvalid =>
      ⟨hfraction hvalid, Scan.repetend_of_valid ht hrepetend hvalid⟩⟩
  · rw [line.filter_diagnostics, Scan.scan_missingPoints, Scan.missingPoints, List.map_map]
    rfl
  · rw [line.filter_diagnostics, Scan.scan_uncompleted, Scan.uncompleted, List.map_map]
    rfl

/-- A repetend behind an integer, and a point in it. -/
example : (⟨1, 0, "1(2.3", none⟩ : Line).tokenize =
    ([⟨.integer, .text "1", 0, 1, false⟩, ⟨.repetend, .text "2", 1, 3, true⟩,
      ⟨.fraction, .text "3", 3, 5, true⟩],
     [.ofIssue .missingDecimalPoint (.single ⟨1, 0, 0, 2⟩),
      .ofIssue .uncompletedRepetend (.single ⟨1, 0, 1, 3⟩),
      .ofIssue .invalidNumber (.single ⟨1, 0, 1, 4⟩)]) := by cbv

end LineLexer
