import LineLexer.Diagnostic.Message

/-!
# Filling message templates

`Message.substitute` cuts a template at its markers and puts identifiers between the parts.
`Message.pass` walks through the characters of the template instead, counts the markers that it
comes by, and copies everything else. The two give the same text, and since the walk never looks at
what it has put in, a template can be filled in two rounds as well as in one, unless the first round
brings in markers of its own: `substitute_eq_pass`.

* `Message.filler`: what stands for the marker with a given number;
* `Message.weave_fields`: identifiers between the parts of a template are fillers for its markers;
* `Message.pass_pass`: two rounds make one;
* `Message.mem_pass`: the characters of a filled template.
-/

namespace LineLexer.Message

/-- What stands in a filled template for the marker with a number, counted from zero: the identifier
with that number or, if there is none, the marker itself. -/
def filler (ids : List String) (n : Nat) : List Char :=
  match ids[n]? with
  | some id => id.toList
  | none => [marker]

/-- One pass over the characters of a template, some markers of which are behind already. -/
def pass (ids : List String) : Nat → List Char → List Char
  | _, [] => []
  | n, c :: rest =>
    if c = marker then filler ids n ++ pass ids (n + 1) rest else c :: pass ids n rest

section
variable {c : Char} {ids xs ys : List String} {id : String} {n : Nat} {text rest : List Char}

theorem pass_marker (ids : List String) (n : Nat) (rest : List Char) :
    pass ids n (marker :: rest) = filler ids n ++ pass ids (n + 1) rest :=
  if_pos rfl

theorem pass_cons (h : c ≠ marker) : pass ids n (c :: rest) = c :: pass ids n rest :=
  if_neg h

theorem filler_of_getElem? (h : ids[n]? = some id) : filler ids n = id.toList := by
  rw [filler, h]

theorem filler_of_length_le (h : ids.length ≤ n) : filler ids n = [marker] := by
  rw [filler, List.getElem?_eq_none h]

/-! ## Parts and characters -/

theorem weave_pushFront (c : Char) (parts : List (List Char)) (ids : List String) :
    weave (Text.pushFront c parts) ids = c :: weave parts ids := by
  match parts, ids with
  | [], _ | [_], _ | _ :: _ :: _, [] | _ :: _ :: _, _ :: _ => rfl

/-- An empty part is a marker in front of the next one. -/
theorem weave_nil_cons {parts : List (List Char)} (h : parts ≠ []) (ids : List String) (n : Nat) :
    weave ([] :: parts) (ids.drop n) = filler ids n ++ weave parts (ids.drop (n + 1)) := by
  obtain ⟨part, more, rfl⟩ := List.exists_cons_of_ne_nil h
  cases hid : ids[n]? with
  | none =>
    have hlength : ids.length ≤ n := List.getElem?_eq_none_iff.1 hid
    rw [filler_of_length_le hlength, List.drop_eq_nil_of_le hlength,
      List.drop_eq_nil_of_le (Nat.le_succ_of_le hlength)]
    rfl
  | some id =>
    obtain ⟨hlt, hget⟩ := List.getElem?_eq_some_iff.1 hid
    rw [filler_of_getElem? hid, List.drop_eq_getElem_cons hlt, hget]
    rfl

/-- Identifiers between the parts of a template are fillers for its markers. -/
theorem weave_fields (ids : List String) (n : Nat) (text : List Char) :
    weave (Text.fields marker text) (ids.drop n) = pass ids n text := by
  induction text generalizing n with
  | nil => rfl
  | cons c rest ih =>
    rw [Text.fields_cons]
    split
    · next h =>
      rw [weave_nil_cons (Text.fields_ne_nil marker rest), ih, h, pass_marker]
    · next h => rw [weave_pushFront, ih, pass_cons h]

theorem toList_substitute (template : String) (ids : List String) :
    (substitute template ids).toList = pass ids 0 template.toList := by
  rw [substitute, String.toList_ofList]
  exact weave_fields ids 0 template.toList

/-! ## What a pass leaves alone -/

/-- A text without markers is copied. -/
theorem pass_append (h : marker ∉ text) : pass ids n (text ++ rest) = text ++ pass ids n rest := by
  induction text with
  | nil => rfl
  | cons c more ih =>
    obtain ⟨hc, hmore⟩ := List.ne_and_not_mem_of_not_mem_cons h
    rw [List.cons_append, pass_cons hc.symm, ih hmore, List.cons_append]

/-- The characters of a filled template are its own and those of the identifiers. -/
theorem mem_pass (h : c ∈ pass ids n text) : c ∈ text ∨ ∃ id ∈ ids, c ∈ id.toList := by
  induction text generalizing n with
  | nil => exact absurd h List.not_mem_nil
  | cons d rest ih =>
    by_cases hd : d = marker
    · rw [hd, pass_marker] at h
      rcases List.mem_append.1 h with h | h
      · cases hid : ids[n]? with
        | none =>
          rw [filler_of_length_le (List.getElem?_eq_none_iff.1 hid), List.mem_singleton] at h
          rw [h, hd]
          exact .inl List.mem_cons_self
        | some id =>
          rw [filler_of_getElem? hid] at h
          exact .inr ⟨id, List.mem_of_getElem? hid, h⟩
      · exact (ih h).imp (List.mem_cons_of_mem d) fun h => h
    · rw [pass_cons hd] at h
      rcases List.mem_cons.1 h with rfl | h
      · exact .inl List.mem_cons_self
      · exact (ih h).imp (List.mem_cons_of_mem d) fun h => h

/-- Two passes make one, if the first brings in no markers. The second pass has come by those
markers only that the first one could not fill. -/
theorem pass_pass (h : ∀ id ∈ xs, marker ∉ id.toList) (ys : List String) (n : Nat)
    (text : List Char) :
    pass ys (n - xs.length) (pass xs n text) = pass (xs ++ ys) n text := by
  induction text generalizing n with
  | nil => rfl
  | cons c rest ih =>
    by_cases hc : c = marker
    · rw [hc, pass_marker, pass_marker, ← ih (n + 1)]
      by_cases hlt : n < xs.length
      · -- the marker is filled in the first round
        have hid : xs[n]? = some xs[n] := List.getElem?_eq_getElem hlt
        have hboth : (xs ++ ys)[n]? = some xs[n] := by rw [List.getElem?_append_left hlt, hid]
        have hnone : n - xs.length = n + 1 - xs.length := by omega
        rw [filler_of_getElem? hid, filler_of_getElem? hboth,
          pass_append (h _ (List.getElem_mem hlt)), hnone]
      · -- the marker is left to the second round
        have hle : xs.length ≤ n := Nat.le_of_not_lt hlt
        have hboth : filler (xs ++ ys) n = filler ys (n - xs.length) := by
          rw [filler, filler, List.getElem?_append_right hle]
        rw [filler_of_length_le hle, List.singleton_append, pass_marker, hboth,
          Nat.sub_add_comm hle]
    · rw [pass_cons hc, pass_cons hc, pass_cons hc, ih]

end

/-- Filling a template is one pass over its characters, which takes an identifier for each marker
as long as there are any. Filling what has been filled gives the same as filling the template with
all identifiers at once, if those of the first round have no markers in them. -/
theorem substitute_eq_pass (template : String) (xs ys : List String) :
    substitute template xs = String.ofList (pass xs 0 template.toList) ∧
      ((∀ id ∈ xs, marker ∉ id.toList) →
        substitute (substitute template xs) ys = substitute template (xs ++ ys)) := by
  refine ⟨?_, fun h => ?_⟩
  · rw [← toList_substitute, String.ofList_toList]
  · have hrounds := pass_pass h ys 0 template.toList
    rw [Nat.zero_sub] at hrounds
    rw [← String.toList_inj, toList_substitute, toList_substitute, toList_substitute, hrounds]

/-- Three markers, of which the first round fills one; an identifier of the second round has a
marker in it, which stays. -/
theorem substitute_eq_pass_rounds :
    (∀ id ∈ ["-x"], marker ∉ id.toList) ∧
      substitute (substitute "# of # for ##" ["-x"]) ["a#b", ""] = "-x of a#b for #" := by
  have hfree : ∀ id ∈ ["-x"], marker ∉ id.toList := by decide
  refine ⟨hfree, ?_⟩
  rw [(substitute_eq_pass "# of # for ##" ["-x"] ["a#b", ""]).2 hfree]
  decide

end LineLexer.Message
