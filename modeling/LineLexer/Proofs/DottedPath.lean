import LineLexer.Component
import Mathlib.Data.List.Destutter
import Mathlib.Data.List.DropRight

/-!
# Dotted paths

Reading a dotted text drops empty names, and writing a path puts dots between its names. So a path
can be read back from its text exactly if a text could have given it: no name is empty, and none
has a dot in it. What is written again after reading is the text itself, but for the dots that say
nothing: those at its ends, and all but one wherever several stand side by side.

* `Text.names`: the names in a text, read character by character;
* `Text.strip`, `Text.squeeze`: dots at the ends of a text, and runs of dots;
* `ComponentId.WellFormed`: a path that a text could have given;
* `ComponentId.parse_roundTrip`: what reading and writing keep.
-/

namespace LineLexer

namespace Text

/-- The fields of a text that are not empty. -/
def names (separator : Char) (text : List Char) : List (List Char) :=
  (fields separator text).filter (!·.isEmpty)

/-- A text without the separators at its ends. -/
def strip (separator : Char) (text : List Char) : List Char :=
  (text.dropWhile (· == separator)).rdropWhile (· == separator)

/-- A text with one separator in place of every run of them: a character is left out if it is a
separator and the one in front of it is, too. -/
def squeeze (separator : Char) (text : List Char) : List Char :=
  text.destutter fun c d => ¬(c = separator ∧ d = separator)

section
variable {separator c d : Char} {name text rest : List Char} {all : List (List Char)}

/-! ## Names -/

theorem of_mem_names (h : name ∈ names separator text) : name ≠ [] ∧ separator ∉ name := by
  obtain ⟨hmem, hfilter⟩ := List.mem_filter.1 h
  refine ⟨?_, not_mem_of_mem_fields hmem⟩
  rintro rfl
  exact absurd hfilter (by decide)

/-- A name without separators that stands alone. -/
theorem names_eq_singleton (hne : name ≠ []) (hfree : separator ∉ name) :
    names separator name = [name] := by
  rw [names, fields_eq_singleton hfree, List.filter_cons_of_pos (by simpa using hne),
    List.filter_nil]

/-- A name without separators in front of one. -/
theorem names_append (hne : name ≠ []) (hfree : separator ∉ name) (rest : List Char) :
    names separator (name ++ separator :: rest) = name :: names separator rest := by
  rw [names, fields_append hfree, List.filter_cons_of_pos (by simpa using hne), names]

/-- Names are found again between the separators that they are joined by. -/
theorem names_join (h : ∀ name ∈ all, name ≠ [] ∧ separator ∉ name) :
    names separator (join separator all) = all := by
  induction all with
  | nil => rfl
  | cons name rest ih =>
    obtain ⟨⟨hne, hfree⟩, hrest⟩ := List.forall_mem_cons.1 h
    by_cases hend : rest = []
    · rw [hend]
      exact names_eq_singleton hne hfree
    · rw [join_cons name hend, names_append hne hfree, ih hrest]

/-! ## Names, character by character -/

theorem names_separator_cons (separator : Char) (text : List Char) :
    names separator (separator :: text) = names separator text := by
  rw [names, fields_cons, if_pos rfl, List.filter_cons_of_neg (by decide), names]

theorem names_concat_separator (separator : Char) (text : List Char) :
    names separator (text ++ [separator]) = names separator text := by
  rw [names, fields_concat, List.filter_append, List.filter_cons_of_neg (by decide),
    List.filter_nil, List.append_nil, names]

/-- A character in front of a name belongs to it. -/
theorem names_cons_cons (hc : c ≠ separator) (hd : d ≠ separator) (rest : List Char) :
    names separator (c :: d :: rest) = pushFront c (names separator (d :: rest)) := by
  obtain ⟨field, more, hfields⟩ := List.exists_cons_of_ne_nil (fields_ne_nil separator rest)
  rw [names, names, fields_cons, fields_cons, if_neg hc, if_neg hd, hfields]
  rfl

theorem names_cons_ne_nil (hc : c ≠ separator) (rest : List Char) :
    names separator (c :: rest) ≠ [] := by
  obtain ⟨field, more, hfields⟩ := List.exists_cons_of_ne_nil (fields_ne_nil separator rest)
  rw [names, fields_cons, if_neg hc, hfields]
  exact List.cons_ne_nil _ _

/-- A character that is no separator is part of a name. -/
theorem names_ne_nil (hmem : c ∈ text) (hc : c ≠ separator) : names separator text ≠ [] := by
  induction text with
  | nil => exact absurd hmem List.not_mem_nil
  | cons d rest ih =>
    by_cases hd : d = separator
    · rw [hd, names_separator_cons]
      apply ih
      apply List.mem_of_ne_of_mem _ hmem
      rwa [hd]
    · exact names_cons_ne_nil hd rest

/-- So there is one behind a separator that does not end a text. -/
theorem names_ne_nil_of_getLast? (h : (separator :: text).getLast? ≠ some separator) :
    names separator text ≠ [] := by
  have hmem := List.getLast_mem (List.cons_ne_nil separator text)
  rw [List.getLast?_eq_some_getLast (List.cons_ne_nil separator text), ne_eq,
    Option.some.injEq] at h
  exact names_ne_nil (List.mem_of_ne_of_mem h hmem) h

/-! ## Separators at the ends -/

theorem names_dropWhile (separator : Char) (text : List Char) :
    names separator (text.dropWhile (· == separator)) = names separator text := by
  induction text with
  | nil => rfl
  | cons c text ih =>
    by_cases hc : c = separator
    · rw [List.dropWhile_cons_of_pos (by simpa using hc), ih, hc, names_separator_cons]
    · rw [List.dropWhile_cons_of_neg (by simpa using hc)]

theorem names_rdropWhile (separator : Char) (text : List Char) :
    names separator (text.rdropWhile (· == separator)) = names separator text := by
  induction text using List.reverseRecOn with
  | nil => rfl
  | append_singleton text c ih =>
    by_cases hc : c = separator
    · rw [List.rdropWhile_concat_pos _ _ _ (by simpa using hc), ih, hc, names_concat_separator]
    · rw [List.rdropWhile_concat_neg _ _ _ (by simpa using hc)]

/-- Separators at the ends of a text make no difference to the names in it. -/
theorem names_strip (separator : Char) (text : List Char) :
    names separator (strip separator text) = names separator text := by
  rw [strip, names_rdropWhile, names_dropWhile]

theorem head?_strip_ne (separator : Char) (text : List Char) :
    (strip separator text).head? ≠ some separator := by
  intro hhead
  obtain ⟨rest, hrest⟩ := List.head?_eq_some_iff.1 hhead
  obtain ⟨dropped, hdropped⟩ :=
    List.rdropWhile_prefix (· == separator) (text.dropWhile (· == separator))
  have hstop := List.head?_dropWhile_not (· == separator) text
  rw [← hdropped, ← strip, hrest] at hstop
  simp at hstop

theorem getLast?_strip_ne (separator : Char) (text : List Char) :
    (strip separator text).getLast? ≠ some separator := by
  intro hlast
  have hne : strip separator text ≠ [] := by
    intro hnil
    rw [hnil] at hlast
    exact absurd hlast (by simp)
  have hstop := List.rdropWhile_last_not (· == separator) _ hne
  rw [List.getLast?_eq_some_getLast hne, Option.some.injEq] at hlast
  exact hstop (beq_iff_eq.2 hlast)

/-! ## Runs of separators -/

theorem squeeze_cons_cons (h : ¬(c = separator ∧ d = separator)) (rest : List Char) :
    squeeze separator (c :: d :: rest) = c :: squeeze separator (d :: rest) := by
  rw [squeeze, squeeze, List.destutter_cons', List.destutter_cons', List.destutter'_cons_pos _ h]

theorem squeeze_separator_separator (separator : Char) (rest : List Char) :
    squeeze separator (separator :: separator :: rest) = squeeze separator (separator :: rest) := by
  rw [squeeze, squeeze, List.destutter_cons', List.destutter_cons',
    List.destutter'_cons_neg _ (by simp)]

/-- Squeezing a text that does not end in a separator leaves one separator between any two names of
it, and if the text starts with separators, one in front of the first name. -/
theorem squeeze_eq (h : text.getLast? ≠ some separator) :
    squeeze separator text =
      if text.head? = some separator then separator :: join separator (names separator text)
      else join separator (names separator text) := by
  induction text with
  | nil => rfl
  | cons c rest ih =>
    cases rest with
    | nil =>
      have hc : c ≠ separator := by simpa using h
      rw [List.head?_cons, if_neg (by simpa using hc),
        names_eq_singleton (List.cons_ne_nil c []) (by simpa using hc.symm)]
      rfl
    | cons d more =>
      rw [List.getLast?_cons_cons] at h
      have hmore := ih h
      rw [List.head?_cons] at hmore ⊢
      by_cases hd : d = separator
      · subst hd
        rw [if_pos rfl, names_separator_cons] at hmore
        by_cases hc : c = d
        · -- one more separator in a run
          rw [hc, squeeze_separator_separator, hmore, if_pos rfl, names_separator_cons,
            names_separator_cons]
        · -- a separator between two names
          have hnext := names_ne_nil_of_getLast? h
          have hnames : names d (c :: d :: more) = [c] :: names d more :=
            names_append (List.cons_ne_nil c []) (by simpa using Ne.symm hc) more
          rw [squeeze_cons_cons (fun hboth => hc hboth.1), hmore, if_neg (by simpa using hc),
            hnames, join_cons [c] hnext, List.singleton_append]
      · rw [if_neg (by simpa using hd)] at hmore
        rw [squeeze_cons_cons (fun hboth => hd hboth.2), hmore]
        by_cases hc : c = separator
        · rw [hc, if_pos rfl, names_separator_cons]
        · -- inside a name
          rw [if_neg (by simpa using hc), names_cons_cons hc hd, join_pushFront]

/-- What is left of the separators stands between names. -/
theorem squeeze_strip (separator : Char) (text : List Char) :
    squeeze separator (strip separator text) = join separator (names separator text) := by
  rw [squeeze_eq (getLast?_strip_ne separator text), if_neg (head?_strip_ne separator text),
    names_strip]

end

end Text

namespace ComponentId

/-- A path that a text could have given: no name is empty, and none has a separator in it. -/
def WellFormed (id : ComponentId) : Prop :=
  ∀ name ∈ id.path, name ≠ "" ∧ separator ∉ name.toList

instance (id : ComponentId) : Decidable id.WellFormed :=
  inferInstanceAs (Decidable (∀ name ∈ id.path, name ≠ "" ∧ separator ∉ name.toList))

theorem path_parse (dotted : String) :
    (parse dotted).path = (Text.names separator dotted.toList).map String.ofList := rfl

theorem toList_text (id : ComponentId) :
    id.text.toList = Text.join separator (id.path.map String.toList) :=
  String.toList_ofList

theorem wellFormed_parse (dotted : String) : (parse dotted).WellFormed := by
  intro name hname
  rw [path_parse] at hname
  obtain ⟨chars, hchars, rfl⟩ := List.mem_map.1 hname
  obtain ⟨hne, hfree⟩ := Text.of_mem_names hchars
  rw [String.toList_ofList]
  refine ⟨?_, hfree⟩
  intro hempty
  apply hne
  rw [← String.toList_ofList (l := chars), hempty]
  rfl

/-- A path that a text could have given is read back from its own text. -/
theorem parse_text {id : ComponentId} (h : id.WellFormed) : parse id.text = id := by
  have hnames : ∀ name ∈ id.path.map String.toList, name ≠ [] ∧ separator ∉ name := by
    intro chars hchars
    obtain ⟨name, hname, rfl⟩ := List.mem_map.1 hchars
    obtain ⟨hne, hfree⟩ := h name hname
    exact ⟨fun hnil => hne (String.toList_eq_nil_iff.1 hnil), hfree⟩
  have hpath : (parse id.text).path = id.path := by
    rw [path_parse, toList_text, Text.names_join hnames, List.map_map]
    exact List.map_id'' (fun _ => String.ofList_toList) id.path
  cases id
  exact congrArg ComponentId.mk hpath

/-- The text of a path that was read is the text that was read, but for separators. -/
theorem text_parse (dotted : String) :
    (parse dotted).text =
      String.ofList (Text.squeeze separator (Text.strip separator dotted.toList)) := by
  have hnames : (parse dotted).path.map String.toList = Text.names separator dotted.toList := by
    rw [path_parse, List.map_map]
    exact List.map_id'' (fun _ => String.toList_ofList) _
  rw [Text.squeeze_strip, ← hnames, ← toList_text, String.ofList_toList]

/-- A path is read back from its text exactly if all its names are non-empty and free of dots. Every
path that is read is of this kind, so reading its text again changes nothing; and its text is the
one that was read, without dots at the ends and with one dot for every run of them. -/
theorem parse_roundTrip (id : ComponentId) (dotted : String) :
    (parse id.text = id ↔ id.WellFormed) ∧
      (parse dotted).WellFormed ∧
      parse (parse dotted).text = parse dotted ∧
      (parse dotted).text =
        String.ofList (Text.squeeze separator (Text.strip separator dotted.toList)) := by
  refine ⟨⟨fun h => ?_, parse_text⟩, wellFormed_parse dotted, ?_, text_parse dotted⟩
  · rw [← h]
    exact wellFormed_parse id.text
  · exact parse_text (wellFormed_parse dotted)

example : (parse ".Geometry..Shapes.").text = "Geometry.Shapes" := by decide

example : ¬WellFormed ⟨["Geometry", "Shapes.Solid"]⟩ := by decide

end ComponentId

end LineLexer
