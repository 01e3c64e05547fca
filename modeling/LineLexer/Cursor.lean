/-!
# Cursors

A cursor is a position in the characters of a line. Positions count characters,
as the spans of tokens and the columns of diagnostics do, and never pass the end
of the line: that is part of the type.
-/

namespace LineLexer

/-- A position in the characters of a line. -/
structure Cursor where
  /-- The characters of the line. -/
  chars : Array Char
  /-- Number of characters before the cursor. -/
  position : Nat
  /-- The cursor stands in the line or at its end. -/
  position_le : position ≤ chars.size
deriving DecidableEq

namespace Cursor

/-- A cursor before the first character. -/
def ofList (chars : List Char) : Cursor :=
  ⟨chars.toArray, 0, Nat.zero_le _⟩

/-- Number of characters of the line. -/
def size (cursor : Cursor) : Nat :=
  cursor.chars.size

/-- An empty line. -/
def isEmpty (cursor : Cursor) : Bool :=
  cursor.chars.isEmpty

/-- Number of characters from the cursor on. -/
def remaining (cursor : Cursor) : Nat :=
  cursor.size - cursor.position

/-- The character at a column. -/
def charAt? (cursor : Cursor) (column : Nat) : Option Char :=
  cursor.chars[column]?

/-- The character a number of columns further on. -/
def peek? (cursor : Cursor) (offset : Nat) : Option Char :=
  cursor.charAt? (cursor.position + offset)

/-- The character at the cursor. -/
def current? (cursor : Cursor) : Option Char :=
  cursor.charAt? cursor.position

/-- The character before the cursor. -/
def previous? (cursor : Cursor) : Option Char :=
  if cursor.position = 0 then none else cursor.charAt? (cursor.position - 1)

/-- Moves on by a number of characters, but not past the end. -/
def advance (cursor : Cursor) (count : Nat) : Cursor :=
  ⟨cursor.chars, min (cursor.position + count) cursor.size, Nat.min_le_right _ _⟩

/-- The characters of a run of columns, as far as the line has them. -/
def slice (cursor : Cursor) (start stop : Nat) : List Char :=
  (cursor.chars.extract start stop).toList

/-- There is a character at the cursor exactly if something remains. -/
theorem remaining_pos_of_current? {cursor : Cursor} {c : Char}
    (h : cursor.current? = some c) : 0 < cursor.remaining := by
  have := (Array.getElem?_eq_some_iff.1 h).1
  simp only [remaining, size]
  omega

@[simp]
theorem size_advance (cursor : Cursor) (count : Nat) :
    (cursor.advance count).size = cursor.size := rfl

/-- Moving on takes that many characters off what remains. -/
theorem remaining_advance (cursor : Cursor) (count : Nat) :
    (cursor.advance count).remaining = cursor.remaining - count := by
  simp only [remaining, advance, size]
  omega

end Cursor

end LineLexer
