/-!
# Fields between separators

`fields` cuts a text at every occurrence of a separator character; the empty
text has one empty field. `join` is its inverse: it puts the separator back
between the fields. So the fields of a text are what it is joined from
(`join_fields`), and no separator is left in them (`not_mem_of_mem_fields`).
-/

namespace LineLexer.Text

/-- Puts a character in front of the first field. -/
def pushFront (c : Char) : List (List Char) → List (List Char)
  | [] => [[c]]
  | field :: rest => (c :: field) :: rest

/-- The fields of a text, cut at every separator. -/
def fields (separator : Char) (text : List Char) : List (List Char) :=
  text.foldr (fun c rest => if c = separator then [] :: rest else pushFront c rest) [[]]

/-- The fields with the separator between neighbours. -/
def join (separator : Char) : List (List Char) → List Char
  | [] => []
  | [field] => field
  | field :: rest => field ++ separator :: join separator rest

@[simp]
theorem fields_nil (separator : Char) : fields separator [] = [[]] := rfl

/-- A separator opens a new field, and every other character joins the field it stands before. -/
theorem fields_cons (separator c : Char) (text : List Char) :
    fields separator (c :: text) =
      if c = separator then [] :: fields separator text
      else pushFront c (fields separator text) := rfl

/-! ## Cutting and joining -/

/-- There is always a first field. -/
theorem fields_ne_nil (separator : Char) (text : List Char) : fields separator text ≠ [] := by
  induction text with
  | nil => exact List.cons_ne_nil _ _
  | cons c text ih =>
    rw [fields_cons]
    split
    · exact List.cons_ne_nil _ _
    · cases h : fields separator text with
      | nil => exact absurd h ih
      | cons field rest => exact List.cons_ne_nil _ _

theorem join_cons {separator : Char} {rest : List (List Char)} (field : List Char)
    (h : rest ≠ []) :
    join separator (field :: rest) = field ++ separator :: join separator rest := by
  cases rest with
  | nil => exact absurd rfl h
  | cons next rest => rfl

/-- A character in front of the first field stands in front of the joined text. -/
theorem join_pushFront (separator c : Char) (all : List (List Char)) :
    join separator (pushFront c all) = c :: join separator all := by
  match all with
  | [] => rfl
  | [field] => rfl
  | field :: next :: rest => rfl

/-- Joining the fields of a text gives the text back. -/
theorem join_fields (separator : Char) (text : List Char) :
    join separator (fields separator text) = text := by
  induction text with
  | nil => rfl
  | cons c text ih =>
    rw [fields_cons]
    split
    · next h => rw [join_cons [] (fields_ne_nil separator text), ih, h, List.nil_append]
    · rw [join_pushFront, ih]

/-- A text without separators in front of one is a field. -/
theorem fields_append {separator : Char} {field : List Char} (h : separator ∉ field)
    (rest : List Char) :
    fields separator (field ++ separator :: rest) = field :: fields separator rest := by
  induction field with
  | nil => rw [List.nil_append, fields_cons, if_pos rfl]
  | cons c field ih =>
    have hc : c ≠ separator := fun heq => h (heq ▸ List.mem_cons_self)
    rw [List.cons_append, fields_cons, if_neg hc, ih fun hmem => h (List.mem_cons_of_mem c hmem)]
    rfl

/-- A text without separators is its only field. -/
theorem fields_eq_singleton {separator : Char} {text : List Char} (h : separator ∉ text) :
    fields separator text = [text] := by
  induction text with
  | nil => rfl
  | cons c text ih =>
    have hc : c ≠ separator := fun heq => h (heq ▸ List.mem_cons_self)
    rw [fields_cons, if_neg hc, ih fun hmem => h (List.mem_cons_of_mem c hmem)]
    rfl

/-- Behind a separator at the end of a text, there is an empty field. -/
theorem fields_concat (separator : Char) (text : List Char) :
    fields separator (text ++ [separator]) = fields separator text ++ [[]] := by
  induction text with
  | nil => rw [List.nil_append, fields_cons, if_pos rfl]; rfl
  | cons c text ih =>
    rw [List.cons_append, fields_cons, fields_cons, ih]
    split
    · rfl
    · cases h : fields separator text with
      | nil => exact absurd h (fields_ne_nil separator text)
      | cons field rest => rfl

/-- No field has a separator in it. -/
theorem not_mem_of_mem_fields {separator : Char} {text field : List Char}
    (h : field ∈ fields separator text) : separator ∉ field := by
  induction text generalizing field with
  | nil =>
    rw [fields_nil, List.mem_singleton] at h
    rw [h]
    exact List.not_mem_nil
  | cons c text ih =>
    rw [fields_cons] at h
    split at h
    · rcases List.mem_cons.1 h with rfl | h
      · exact List.not_mem_nil
      · exact ih h
    · next hc =>
      -- only the first field has changed, and by a character that is no separator
      cases hfields : fields separator text with
      | nil => exact absurd hfields (fields_ne_nil separator text)
      | cons first rest =>
        rw [hfields] at h ih
        rcases List.mem_cons.1 h with rfl | h
        · intro hmem
          rcases List.mem_cons.1 hmem with heq | hmem
          · exact hc heq.symm
          · exact ih List.mem_cons_self hmem
        · exact ih (List.mem_cons_of_mem first h)

end LineLexer.Text
