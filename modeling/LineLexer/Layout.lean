import LineLexer.Indentation
import LineLexer.Line
import LineLexer.Text.Fields

/-!
# The layout of a source text

A source text is cut into physical lines. `Layout.lineOf?` measures and removes
the indentation of a physical line, cuts its comment off, and gives the line of
code that is left, if any; `Layout.linesOf` does so for a whole text. Lines without
code leave gaps in the numbers.
-/

namespace LineLexer

namespace Layout

/-- The largest line number; lines beyond it share it. -/
def lastNumber : Nat := 4294967295

/-- The number of the physical line with an index. -/
def lineNumber (index : Nat) : Nat :=
  min (index + 1) lastNumber

/-- The indentation level of a run of indentation characters. -/
def levelOf (indentation : Indentation) (count : Nat) : Nat :=
  match indentation with
  | .tab => count
  | .spaces width _ _ => count / width

/-- A physical line behind its indentation. -/
def unindented (indentation : Indentation) (text : List Char) : List Char :=
  text.dropWhile (· = indentation.character)

/-- The indentation level of a physical line. -/
def level (indentation : Indentation) (text : List Char) : Nat :=
  levelOf indentation (text.takeWhile (· = indentation.character)).length

/-- The code in front of a comment, without blanks at its end. -/
def codeOf (text : List Char) : List Char :=
  Text.trimEnd (text.takeWhile (· ≠ '#'))

/-- A physical line that is a block comment as a whole. -/
def isBlockComment (text : List Char) : Bool :=
  ['#', '#'].isPrefixOf text

/-- The line of code of a physical line, if it has any. -/
def lineOf? (indentation : Indentation) (number : Nat) (text : List Char) : Option Line :=
  let rest := unindented indentation text
  let code := codeOf rest
  if isBlockComment rest || code.isEmpty then none
  else some { number, level := level indentation text, code := String.ofList code }

/-- Of neighbouring lines with one number, keeps the last. -/
def keepLast : List Line → List Line
  | [] => []
  | [line] => [line]
  | line :: next :: rest =>
    if line.number = next.number then keepLast (next :: rest)
    else line :: keepLast (next :: rest)

/-- The physical lines of a source text. -/
def physicalLines (source : List Char) : List (List Char) :=
  Text.fields '\n' source

/-- The lines of code of a source text. -/
def linesOf (indentation : Indentation) (source : List Char) : List Line :=
  keepLast <| (physicalLines source).zipIdx.filterMap fun (text, index) =>
    lineOf? indentation (lineNumber index) text

end Layout

end LineLexer
