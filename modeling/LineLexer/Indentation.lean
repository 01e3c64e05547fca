import LineLexer.Text.Blank
import LineLexer.Text.Quoted

/-!
# Indentation

How one indentation level is written: as a tab, or as a number of spaces between
1 and 255. `Indentation.parse` reads the setting from a text; surrounding blanks
do not count, and neither does the case of the word for the tab.
-/

namespace LineLexer

/-- How one indentation level is written. -/
inductive Indentation where
  | tab
  | spaces (width : Nat) (positive : 0 < width) (small : width ≤ 255)
deriving DecidableEq, Repr

/-- A text or number that is no indentation. -/
inductive IndentationError where
  /-- A width of zero spaces. -/
  | zeroWidth
  /-- Neither the word for the tab nor a width. -/
  | invalid (text : String)
deriving DecidableEq, Repr

namespace IndentationError

/-- What the user is told. -/
def message : IndentationError → String
  | zeroWidth => "Indentation width must be positive"
  | invalid text =>
    s!"Invalid indentation '{text}': expected 'tab' or a positive number of spaces"

/-- The error with its fields, on one line. -/
def inspect : IndentationError → String
  | zeroWidth => "ZeroIndentWidth"
  | invalid text => "InvalidIndentation(" ++ Text.quoted text ++ ")"

end IndentationError

namespace Indentation

/-- Indentation by a number of spaces. -/
def ofWidth (width : Nat) (small : width ≤ 255) : Except IndentationError Indentation :=
  if positive : 0 < width then .ok (.spaces width positive small) else .error .zeroWidth

/-- Spaces per level, if it is written with spaces. -/
def width? : Indentation → Option Nat
  | tab => none
  | spaces width _ _ => some width

/-- The character that indentation is written with. -/
def character : Indentation → Char
  | tab => '\t'
  | spaces _ _ _ => ' '

/-- The text that reads as this indentation. -/
def text : Indentation → String
  | tab => "tab"
  | spaces width _ _ => toString width

/-- The value of a run of decimal digits. -/
def digitsValue (digits : List Char) : Nat :=
  digits.foldl (fun value c => value * 10 + (c.toNat - '0'.toNat)) 0

/-- The digits of a width: a single plus in front of them is allowed. -/
def widthDigits : List Char → List Char
  | '+' :: digits => digits
  | digits => digits

/-- A width: decimal digits, at least one, with a value of at most 255. -/
def parseWidth? (text : List Char) : Option { width : Nat // width ≤ 255 } :=
  let digits := widthDigits text
  if digits ≠ [] ∧ digits.all Char.isDigit then
    if small : digitsValue digits ≤ 255 then some ⟨digitsValue digits, small⟩ else none
  else none

/-- The word for the tab, or its first letter. -/
def isTabWord (text : List Char) : Bool :=
  let lower := text.map Char.toLower
  lower == ['t', 'a', 'b'] || lower == ['t']

/-- Reads an indentation. -/
def parse (text : String) : Except IndentationError Indentation :=
  let trimmed := Text.trim text.toList
  if isTabWord trimmed then .ok .tab
  else match parseWidth? trimmed with
    | some width => ofWidth width.val width.property
    | none => .error (.invalid (String.ofList trimmed))

end Indentation

/-- Settings that decide how a source text is read. -/
structure Presets where
  /-- How one indentation level is written. -/
  indentation : Indentation := .tab
  /-- Lex the lines of a component in parallel. -/
  parallel : Bool := false
deriving DecidableEq, Repr

end LineLexer
