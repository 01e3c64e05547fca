import LineLexer.Cursor

/-!
# Columns and slices

How the queries of a cursor fit together: what moving on does to the position, and
how the slices of a line join. `slice_append` and `slice_succ` are the two ways in
which a slice grows; everything that later modules say about the text of a token
goes back to them.
-/

namespace LineLexer
namespace Cursor

/-! ## Positions -/

@[simp] theorem size_ofList (code : List Char) : (ofList code).size = code.length := by
  simp [ofList, size]

@[simp] theorem charAt?_ofList (code : List Char) (i : Nat) :
    (ofList code).charAt? i = code[i]? := by
  simp [ofList, charAt?]

@[simp] theorem chars_advance (cursor : Cursor) (n : Nat) :
    (cursor.advance n).chars = cursor.chars := rfl

@[simp] theorem charAt?_advance (cursor : Cursor) (n i : Nat) :
    (cursor.advance n).charAt? i = cursor.charAt? i := rfl

@[simp] theorem slice_advance (cursor : Cursor) (n start stop : Nat) :
    (cursor.advance n).slice start stop = cursor.slice start stop := rfl

@[simp] theorem advance_zero (cursor : Cursor) : cursor.advance 0 = cursor := by
  obtain ⟨chars, position, hle⟩ := cursor
  simp only [advance, size, Nat.add_zero, Nat.min_eq_left hle]

/-- A cursor stands in the line or at its end. -/
theorem position_le_size (cursor : Cursor) : cursor.position ≤ cursor.size :=
  cursor.position_le

theorem advance_advance (cursor : Cursor) (m n : Nat) :
    (cursor.advance m).advance n = cursor.advance (m + n) := by
  have hposition : min (min (cursor.position + m) cursor.size + n) cursor.size =
      min (cursor.position + (m + n)) cursor.size := by omega
  simp only [advance, size] at hposition ⊢
  simp only [hposition]

/-- Moving on inside the line adds up. -/
theorem position_advance {cursor : Cursor} {n : Nat} (h : cursor.position + n ≤ cursor.size) :
    (cursor.advance n).position = cursor.position + n :=
  Nat.min_eq_left h

/-- Moving on from the start of a line, inside it. -/
theorem position_advance_ofList {code : List Char} {n : Nat} (h : n ≤ code.length) :
    ((ofList code).advance n).position = n := by
  have hzero : (ofList code).position + n = n := Nat.zero_add n
  rw [position_advance (by rw [hzero, size_ofList]; exact h), hzero]

theorem position_le_position_advance (cursor : Cursor) (n : Nat) :
    cursor.position ≤ (cursor.advance n).position := by
  have hle := cursor.position_le_size
  simp only [advance]
  omega

/-- Where there is a character, the line has not ended. -/
theorem position_lt_of_current? {cursor : Cursor} {c : Char} (h : cursor.current? = some c) :
    cursor.position < cursor.size := by
  have hpos := remaining_pos_of_current? h
  unfold remaining at hpos
  omega

/-- Taking the current character moves on by one column. -/
theorem position_advance_one {cursor : Cursor} {c : Char} (h : cursor.current? = some c) :
    (cursor.advance 1).position = cursor.position + 1 :=
  position_advance (position_lt_of_current? h)

/-- Where there is no character, the line has ended. -/
theorem position_eq_of_current?_eq_none {cursor : Cursor} (h : cursor.current? = none) :
    cursor.position = cursor.size := by
  have hge : cursor.size ≤ cursor.position := Array.getElem?_eq_none_iff.1 h
  have hle := cursor.position_le_size
  omega

/-- At the end of the line there is no character. -/
theorem current?_eq_none {cursor : Cursor} (h : cursor.position = cursor.size) :
    cursor.current? = none := by
  rw [current?, h]
  exact Array.getElem?_eq_none (Nat.le_refl _)

/-- A character is found only inside the line. -/
theorem lt_size_of_charAt? {cursor : Cursor} {i : Nat} {c : Char} (h : cursor.charAt? i = some c) :
    i < cursor.size :=
  (Array.getElem?_eq_some_iff.1 h).1

/-- Every column inside the line has a character. -/
theorem exists_charAt? {cursor : Cursor} {i : Nat} (h : i < cursor.size) :
    ∃ c, cursor.charAt? i = some c :=
  ⟨_, Array.getElem?_eq_getElem h⟩

/-! ## Slices -/

theorem length_toList_chars (cursor : Cursor) : cursor.chars.toList.length = cursor.size :=
  Array.length_toList

/-- A slice, in terms of lists. -/
theorem slice_eq (cursor : Cursor) (start stop : Nat) :
    cursor.slice start stop = (cursor.chars.toList.take stop).drop start := by
  rw [slice, Array.toList_extract, List.extract_eq_take_drop, List.drop_take]

@[simp] theorem slice_self (cursor : Cursor) (i : Nat) : cursor.slice i i = [] := by
  rw [slice_eq, List.drop_take, Nat.sub_self, List.take_zero]

theorem length_slice {cursor : Cursor} {start stop : Nat} (h : stop ≤ cursor.size) :
    (cursor.slice start stop).length = stop - start := by
  rw [slice_eq, List.length_drop, List.length_take, length_toList_chars, Nat.min_eq_left h]

theorem getElem?_slice {cursor : Cursor} {start stop i : Nat} (h : start + i < stop) :
    (cursor.slice start stop)[i]? = cursor.charAt? (start + i) := by
  rw [slice_eq, List.getElem?_drop, List.getElem?_take_of_lt h, Array.getElem?_toList, charAt?]

/-- A slice holds the characters of its columns. -/
theorem mem_slice {cursor : Cursor} {start stop i : Nat} {c : Char} (hc : cursor.charAt? i = some c)
    (hle : start ≤ i) (hlt : i < stop) : c ∈ cursor.slice start stop := by
  have hget : (cursor.slice start stop)[i - start]? = cursor.charAt? (start + (i - start)) :=
    getElem?_slice (by omega)
  rw [Nat.add_sub_cancel' hle, hc] at hget
  exact List.mem_of_getElem? hget

/-- Leaving out characters at the front of a slice. -/
theorem drop_slice (cursor : Cursor) (start stop n : Nat) :
    (cursor.slice start stop).drop n = cursor.slice (start + n) stop := by
  rw [slice_eq, slice_eq, List.drop_drop]

/-- Two slices that meet are one slice. -/
theorem slice_append {cursor : Cursor} {start middle stop : Nat} (h : start ≤ middle)
    (h' : middle ≤ stop) :
    cursor.slice start middle ++ cursor.slice middle stop = cursor.slice start stop := by
  rw [slice_eq, slice_eq, slice_eq, List.drop_take, List.drop_take, List.drop_take]
  obtain ⟨m, rfl⟩ := Nat.exists_eq_add_of_le h
  obtain ⟨n, rfl⟩ := Nat.exists_eq_add_of_le h'
  rw [show start + m + n - start = m + n by omega, show start + m - start = m by omega,
    show start + m + n - (start + m) = n by omega, List.take_add, List.drop_drop]

theorem slice_singleton {cursor : Cursor} {i : Nat} {c : Char} (h : cursor.charAt? i = some c) :
    cursor.slice i (i + 1) = [c] := by
  have hlt := lt_size_of_charAt? h
  have hlen : (cursor.slice i (i + 1)).length = 1 := by
    rw [length_slice hlt]
    omega
  obtain ⟨d, hd⟩ := List.length_eq_one_iff.1 hlen
  have hget : (cursor.slice i (i + 1))[0]? = cursor.charAt? (i + 0) := getElem?_slice (by omega)
  rw [hd, Nat.add_zero, h] at hget
  simp_all

/-- A slice grows by the character at its end. -/
theorem slice_succ {cursor : Cursor} {start i : Nat} {c : Char} (h : start ≤ i)
    (hc : cursor.charAt? i = some c) :
    cursor.slice start (i + 1) = cursor.slice start i ++ [c] := by
  rw [← slice_append h (Nat.le_succ i), slice_singleton hc]

/-! ## Cursors in a given line -/

section
variable {cursor : Cursor} {code : List Char}

theorem size_of_chars (h : cursor.chars = code.toArray) : cursor.size = code.length := by
  rw [size, h, List.size_toArray]

theorem charAt?_of_chars (h : cursor.chars = code.toArray) (i : Nat) :
    cursor.charAt? i = code[i]? := by
  rw [charAt?, h, List.getElem?_toArray]

/-- A column inside the line has the same character on the list. -/
theorem exists_charAt?_of_chars (h : cursor.chars = code.toArray) {i : Nat}
    (hlt : i < cursor.size) :
    ∃ c, cursor.charAt? i = some c ∧ code[i]? = some c := by
  obtain ⟨c, hc⟩ := exists_charAt? hlt
  exact ⟨c, hc, (charAt?_of_chars h i).symm.trans hc⟩

theorem slice_of_chars (h : cursor.chars = code.toArray) (start stop : Nat) :
    cursor.slice start stop = (code.take stop).drop start := by
  rw [slice_eq, h]

end

end Cursor
end LineLexer
