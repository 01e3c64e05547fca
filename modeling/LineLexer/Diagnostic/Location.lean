/-!
# Locations

A location is a run of columns in one line of a component. Columns count
characters from zero and the end is exclusive; a message shows both from one.
-/

namespace LineLexer

/-- A run of columns in a line at an indentation level. -/
structure Location where
  /-- Line number, counted from one. -/
  line : Nat
  /-- Indentation level of the line. -/
  level : Nat
  /-- First column. -/
  start : Nat
  /-- Column after the last one. -/
  stop : Nat
deriving DecidableEq, Repr

/-- Number of columns covered. -/
def Location.width (location : Location) : Nat :=
  location.stop - location.start

/-- How a message shows a location. -/
def Location.text (location : Location) : String :=
  s!"{location.line}:L{location.level}+{location.start + 1}:{location.stop + 1}"

/-- The places that a diagnostic points at. -/
inductive Locations where
  | none
  | single (location : Location)
  | pair (first second : Location)
deriving DecidableEq, Repr

namespace Locations

/-- The places from left to right. -/
def toList : Locations → List Location
  | none => []
  | single location => [location]
  | pair first second => [first, second]

/-- Number of places. -/
def size (locations : Locations) : Nat :=
  locations.toList.length

/-- No place at all. -/
def isEmpty (locations : Locations) : Bool :=
  locations.toList.isEmpty

/-- The leftmost place. -/
def first? (locations : Locations) : Option Location :=
  locations.toList.head?

/-- The rightmost place. -/
def last? (locations : Locations) : Option Location :=
  locations.toList.getLast?

/-- At most two places, from left to right. -/
def ofList? : List Location → Option Locations
  | [] => some none
  | [location] => some (single location)
  | [first, second] => some (pair first second)
  | _ => Option.none

end Locations

end LineLexer
