import LineLexer.Report

/-!
# Rows of output

A report is put out row by row, each row with a newline behind it. If no row has a newline of its
own, the output can be cut into the same rows again: `Report.rows?_render`. So this is what has to
be known of everything that gets into a row, and `Text.OneLine` is kept by putting texts together,
by padding and by writing numbers.

What columns hold can be read back as well, whatever their widths: blanks in front of a number are
skipped, and a number ends where its digits end.

* `Text.OneLine`: a text without newlines;
* `Text.skipPadding`, `Text.readNumber`: the number in a column, read back;
* `Report.rows?`: the rows of an output, read back.
-/

namespace LineLexer

namespace Text

/-- A text without newlines. -/
def OneLine (text : String) : Prop :=
  '\n' ∉ text.toList

instance (text : String) : Decidable (OneLine text) :=
  inferInstanceAs (Decidable ('\n' ∉ text.toList))

section
variable {chars : List Char} {first second text : String} {width : Nat}

/-- This is how a literal is seen to be one line without running the functions on texts. -/
theorem oneLine_ofList (h : '\n' ∉ chars) : OneLine (String.ofList chars) := by
  rwa [OneLine, String.toList_ofList]

@[simp]
theorem oneLine_append : OneLine (first ++ second) ↔ OneLine first ∧ OneLine second := by
  rw [OneLine, String.toList_append, List.mem_append, not_or]
  rfl

/-- The digits of a number. -/
theorem toList_toString (n : Nat) : (toString n).toList = Nat.toDigits 10 n := by
  rw [Nat.toString_eq_ofList_toDigits, String.toList_ofList]

theorem toList_toString_ne_nil (n : Nat) : (toString n).toList ≠ [] := by
  rw [toList_toString]
  exact Nat.toDigits_ne_nil

theorem isDigit_of_mem_toString {n : Nat} {c : Char} (h : c ∈ (toString n).toList) :
    c.isDigit = true := by
  rw [toList_toString] at h
  exact Nat.isDigit_of_mem_toDigits (by decide) (by decide) h

@[simp]
theorem oneLine_toString (n : Nat) : OneLine (toString n) :=
  fun hmem => absurd (isDigit_of_mem_toString hmem) (by decide)

/-- A text is put into another one as it is. -/
@[simp]
theorem oneLine_toString_text : OneLine (toString text) ↔ OneLine text :=
  Iff.rfl

theorem oneLine_replicate (n : Nat) : OneLine (String.ofList (List.replicate n ' ')) :=
  oneLine_ofList fun hmem => absurd (List.eq_of_mem_replicate hmem) (by decide)

@[simp]
theorem oneLine_padLeft : OneLine (padLeft width text) ↔ OneLine text := by
  rw [padLeft, oneLine_append]
  exact and_iff_right (oneLine_replicate _)

@[simp]
theorem oneLine_padRight : OneLine (padRight width text) ↔ OneLine text := by
  rw [padRight, oneLine_append]
  exact and_iff_left (oneLine_replicate _)

theorem oneLine_join {texts : List String} :
    OneLine (String.join texts) ↔ ∀ text ∈ texts, OneLine text := by
  simp [OneLine]

/-- What is said of all hexadecimal digits is true of those of a number. -/
theorem forall_mem_hexDigits {P : Char → Prop} (h : ∀ d < 16, P (hexDigit d)) (width n : Nat) :
    ∀ c ∈ hexDigits width n, P c := by
  induction width generalizing n with
  | zero => exact fun _ hc => absurd hc List.not_mem_nil
  | succ width ih =>
    refine List.forall_mem_append.2 ⟨ih (n / 16), List.forall_mem_singleton.2 ?_⟩
    exact h (n % 16) (Nat.mod_lt n (by decide))

@[simp]
theorem oneLine_hexWord (word : UInt64) : OneLine (hexWord word) := by
  refine oneLine_ofList fun hmem => ?_
  exact forall_mem_hexDigits (P := (· ≠ '\n')) (by decide) 16 word.toNat '\n' hmem rfl

end

/-! ## Columns -/

theorem toList_padLeft (width : Nat) (text : String) :
    (padLeft width text).toList = List.replicate (width - text.length) ' ' ++ text.toList := by
  rw [padLeft, String.toList_append, String.toList_ofList]

theorem toList_padRight (width : Nat) (text : String) :
    (padRight width text).toList = text.toList ++ List.replicate (width - text.length) ' ' := by
  rw [padRight, String.toList_append, String.toList_ofList]

/-- The text behind blanks in front of a column. -/
def skipPadding (text : List Char) : List Char :=
  text.dropWhile (· == ' ')

/-- A decimal number off the front of a text, and the text behind it. -/
def readNumber (text : List Char) : Nat × List Char :=
  (Nat.ofDigitChars 10 (text.takeWhile Char.isDigit) 0, text.dropWhile Char.isDigit)

section
variable {text rest : List Char}

/-- A blank behind padding may as well stand in front of it. -/
theorem padding_cons (n : Nat) (rest : List Char) :
    List.replicate n ' ' ++ ' ' :: rest = ' ' :: (List.replicate n ' ' ++ rest) := by
  rw [← List.cons_append, ← List.replicate_succ, List.replicate_succ', List.append_assoc]
  rfl

/-- Only blanks are skipped. -/
theorem skipPadding_append (n : Nat) (h : ' ' ∉ text) (hne : text ≠ []) :
    skipPadding (List.replicate n ' ' ++ (text ++ rest)) = text ++ rest := by
  have hspaces : ∀ c ∈ List.replicate n ' ', (c == ' ') = true :=
    fun c hc => beq_iff_eq.2 (List.eq_of_mem_replicate hc)
  obtain ⟨c, more, rfl⟩ := List.exists_cons_of_ne_nil hne
  have hc : ¬(c == ' ') = true := by
    intro heq
    rw [beq_iff_eq.1 heq] at h
    exact h List.mem_cons_self
  rw [skipPadding, List.dropWhile_append_of_pos hspaces, List.cons_append,
    List.dropWhile_cons_of_neg (p := (· == ' ')) hc]

/-- Padding in front of a number is skipped. -/
theorem skipPadding_toString (n number : Nat) :
    skipPadding (List.replicate n ' ' ++ ((toString number).toList ++ rest)) =
      (toString number).toList ++ rest :=
  skipPadding_append n (fun hmem => absurd (isDigit_of_mem_toString hmem) (by decide))
    (toList_toString_ne_nil number)

/-- A number ends where its digits end. -/
theorem readNumber_append (n : Nat) {c : Char} (h : c.isDigit = false) :
    readNumber ((toString n).toList ++ c :: rest) = (n, c :: rest) := by
  have hdigits : ∀ d ∈ (toString n).toList, d.isDigit = true := fun d => isDigit_of_mem_toString
  have hc : ¬c.isDigit = true := ne_true_of_eq_false h
  rw [readNumber, List.takeWhile_append_of_pos hdigits, List.dropWhile_append_of_pos hdigits,
    List.takeWhile_cons_of_neg hc, List.dropWhile_cons_of_neg hc, List.append_nil, toList_toString,
    Nat.ofDigitChars_ten_toDigits]

end

end Text

namespace Report

/-- The rows of an output, each of which has a newline behind it. An output whose last row has
none is not read. -/
def rows? (output : String) : Option (List String) :=
  let fields := Text.fields '\n' output.toList
  if fields.getLast? = some [] then some (fields.dropLast.map String.ofList) else none

theorem render_cons (row : String) (rows : List String) :
    (render (row :: rows)).toList = row.toList ++ '\n' :: (render rows).toList := by
  simp [render]

/-- Behind the newline of the last row, there is an empty field. -/
theorem fields_render {rows : List String} (h : ∀ row ∈ rows, Text.OneLine row) :
    Text.fields '\n' (render rows).toList = rows.map String.toList ++ [[]] := by
  induction rows with
  | nil => rfl
  | cons row rows ih =>
    obtain ⟨hrow, hrows⟩ := List.forall_mem_cons.1 h
    rw [render_cons, Text.fields_append hrow, ih hrows]
    rfl

/-- Rows without newlines are read back. -/
theorem rows?_render {rows : List String} (h : ∀ row ∈ rows, Text.OneLine row) :
    rows? (render rows) = some rows := by
  have hrows : (rows.map String.toList).map String.ofList = rows := by
    rw [List.map_map]
    exact List.map_id'' (fun _ => String.ofList_toList) rows
  simp only [rows?, fields_render h, List.getLast?_concat, if_true, List.dropLast_concat, hrows]

end Report

end LineLexer
