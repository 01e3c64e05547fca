import LineLexer.Component
import LineLexer.Layout

/-!
# Source units

A source unit is a component on its way through the lexer. `SourceUnit.linearize`
cuts a source text into lines of code, and `SourceUnit.tokenize` attaches tokens
to all of them, once, and collects their diagnostics in line order. Whether the
lines are lexed in parallel makes no difference to the result.
-/

namespace LineLexer

/-- How far a source unit has come. -/
inductive Stage where
  | linearized
  | tokenized
deriving DecidableEq, Repr

/-- How listings name a stage. -/
def Stage.name : Stage → String
  | linearized => "linearized"
  | tokenized => "tokenized"

/-- A component on its way through the lexer. -/
structure SourceUnit where
  /-- Identifier of the component. -/
  id : ComponentId
  /-- Lines of code by increasing number. -/
  lines : List Line
  /-- Diagnostics in line order. -/
  diagnostics : List Diagnostic
  /-- How far the unit has come. -/
  stage : Stage
deriving DecidableEq, Repr

namespace SourceUnit

/-- A unit without lines. -/
def empty (id : ComponentId) : SourceUnit :=
  { id, lines := [], diagnostics := [], stage := .linearized }

/-- Cuts a source text into lines of code. -/
def linearize (id : ComponentId) (indentation : Indentation) (source : String) : SourceUnit :=
  { empty id with lines := Layout.linesOf indentation source.toList }

/-- The line with a given number. -/
def line? (unit : SourceUnit) (number : Nat) : Option Line :=
  unit.lines.find? (·.number == number)

/-- The diagnostics of a phase. -/
def diagnosticsOf (unit : SourceUnit) (phase : Phase) : List Diagnostic :=
  unit.diagnostics.filter (·.phase == phase)

/-- All attached tokens with the numbers of their lines. -/
def tokens (unit : SourceUnit) : List (Nat × Token) :=
  unit.lines.flatMap fun line => line.tokens.map (line.number, ·)

/-! ## Attaching tokens -/

/-- Tokens and diagnostics of every line, each of which collects its diagnostics in a list of its
own. In parallel, each line is a task. What is assumed of the parallel collection is one result for
each line, in the order of the lines, whatever the order in which the tasks run. -/
def lexLines (parallel : Bool) (lines : List Line) : List (List Token × List Diagnostic) :=
  if parallel then
    (lines.map fun line => Task.spawn fun _ => line.tokenizeInto []).map Task.get
  else lines.map fun line => line.tokenizeInto []

/-- Attaches the tokens of every line and collects the diagnostics. -/
def tokenize (unit : SourceUnit) (parallel : Bool) : Except TokenizeError SourceUnit := do
  if unit.stage = .tokenized then
    throw (.unitAlreadyTokenized unit.id.text)
  let results := lexLines parallel unit.lines
  let lines ← (unit.lines.zip results).mapM fun (line, tokens, _) => line.attach tokens
  let diagnostics := unit.diagnostics ++ results.flatMap (·.2)
  return { unit with lines, diagnostics, stage := .tokenized }

/-- Cuts a source text into lines and attaches their tokens. -/
def lex (id : ComponentId) (presets : Presets) (source : String) :
    Except TokenizeError SourceUnit :=
  (linearize id presets.indentation source).tokenize presets.parallel

/-- Lexing in parallel gives what lexing line after line gives. -/
theorem lexLines_parallel (lines : List Line) : lexLines true lines = lexLines false lines := by
  simp [lexLines, Task.spawn]

end SourceUnit

end LineLexer
