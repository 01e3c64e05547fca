import LineLexer.Text.Blank
import Mathlib.Data.List.DropRight

/-!
# Blanks at the ends of a text

Trimming takes blanks off the ends of a text, and as many as there are: `Text.trims_iff` says so
without looking for them, by what is taken off and by what is left.
-/

namespace LineLexer

namespace Text

/-- What is left of a text when the blanks at its ends are taken off. -/
structure Trims (text core : List Char) : Prop where
  /-- Nothing but blanks is taken off. -/
  parts : ∃ front back, text = front ++ (core ++ back) ∧
    (∀ c ∈ front, isBlank c = true) ∧ ∀ c ∈ back, isBlank c = true
  /-- No blank is left in front. -/
  first : ∀ c, core.head? = some c → isBlank c = false
  /-- No blank is left at the end. -/
  last : ∀ c, core.getLast? = some c → isBlank c = false

section
variable {text core blanks : List Char} {c : Char}

/-! ## The end of a text -/

/-- Trimming the end of a text takes blanks off and nothing else. -/
theorem exists_trimEnd_append (text : List Char) :
    ∃ blanks, text = trimEnd text ++ blanks ∧ ∀ c ∈ blanks, isBlank c = true := by
  have hsplit := List.takeWhile_append_dropWhile (p := isBlank) (l := text.reverse)
  refine ⟨(text.reverse.takeWhile isBlank).reverse, ?_, fun c hc => ?_⟩
  · rw [trimEnd, ← List.reverse_append, hsplit, List.reverse_reverse]
  · exact List.mem_takeWhile_imp (List.mem_reverse.1 hc)

/-- Blanks behind a text that does not end in one are all that is trimmed off. -/
theorem trimEnd_append (htrimmed : ∀ c, core.getLast? = some c → isBlank c = false)
    (hblanks : ∀ c ∈ blanks, isBlank c = true) : trimEnd (core ++ blanks) = core := by
  have hcore : core.reverse.dropWhile isBlank = core.reverse := by
    cases hreverse : core.reverse with
    | nil => rfl
    | cons c more =>
      have hlast : core.getLast? = some c := by
        rw [List.getLast?_eq_head?_reverse, hreverse, List.head?_cons]
      rw [List.dropWhile_cons_of_neg (by simp [htrimmed c hlast])]
  rw [trimEnd, List.reverse_append, List.dropWhile_append_of_pos, hcore, List.reverse_reverse]
  intro c hc
  exact hblanks c (List.mem_reverse.1 hc)

/-- A trimmed text does not end in a blank. -/
theorem isBlank_of_getLast?_trimEnd (h : (trimEnd text).getLast? = some c) :
    isBlank c = false := by
  have hstop := List.head?_dropWhile_not isBlank text.reverse
  rw [trimEnd, List.getLast?_reverse] at h
  rw [h] at hstop
  exact hstop

/-! ## Both ends -/

theorem trims_trim (text : List Char) : Trims text (trim text) := by
  obtain ⟨back, hback, hblank⟩ := exists_trimEnd_append (trimStart text)
  refine ⟨⟨text.takeWhile isBlank, back, ?_, fun c => List.mem_takeWhile_imp, hblank⟩, ?_,
    fun c => isBlank_of_getLast?_trimEnd⟩
  · rw [trim, ← hback, trimStart, List.takeWhile_append_dropWhile]
  · intro c hc
    obtain ⟨more, hmore⟩ := List.head?_eq_some_iff.1 hc
    have hstop := List.head?_dropWhile_not isBlank text
    rw [← trimStart, hback, ← trim, hmore] at hstop
    exact hstop

/-- There is only one way to trim a text. -/
theorem Trims.trim_eq (h : Trims text core) : trim text = core := by
  obtain ⟨⟨front, back, rfl, hfront, hback⟩, hfirst, hlast⟩ := h
  rw [trim, trimStart, List.dropWhile_append_of_pos hfront]
  cases core with
  | nil =>
    rw [List.nil_append, List.dropWhile_eq_nil_iff.2 hback]
    rfl
  | cons c more =>
    have hc : isBlank c = false := hfirst c rfl
    rw [List.cons_append, List.dropWhile_cons_of_neg (by simp [hc]), ← List.cons_append,
      trimEnd_append hlast hback]

theorem trims_iff : Trims text core ↔ core = trim text := by
  constructor
  · intro h
    exact h.trim_eq.symm
  · rintro rfl
    exact trims_trim text

/-- There is nothing to trim off a text without blanks. -/
theorem trim_eq_self (h : ∀ c ∈ text, isBlank c = false) : trim text = text := by
  refine Trims.trim_eq ⟨⟨[], [], ?_, ?_, ?_⟩, ?_, ?_⟩
  · rw [List.nil_append, List.append_nil]
  · exact fun c hc => absurd hc List.not_mem_nil
  · exact fun c hc => absurd hc List.not_mem_nil
  · exact fun c hc => h c (List.mem_of_head? hc)
  · exact fun c hc => h c (List.mem_of_getLast? hc)

/-- What is left of a text is part of it. -/
theorem trim_subset (text : List Char) : trim text ⊆ text := by
  obtain ⟨front, back, hparts, -⟩ := (trims_trim text).parts
  intro c hc
  rw [hparts]
  exact List.mem_append_right _ (List.mem_append_left _ hc)

end

end Text

end LineLexer
