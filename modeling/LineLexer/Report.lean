import LineLexer.Failure
import LineLexer.Files
import LineLexer.SourceUnit
import LineLexer.Text.Column

/-!
# Reports

What the commands of the program print about a source file. `lines` lists the
lines of code, `lex` the tokens and then the diagnostics, and `check` the
diagnostics alone; a check with diagnostics fails. A report is a list of rows,
each of which becomes one line of output.
-/

namespace LineLexer

/-- A command of the program. -/
inductive Command where
  | lines
  | lex (skipWhitespace : Bool)
  | check
deriving DecidableEq, Repr

/-- What a command prints, and why it fails, if it does. -/
structure Report where
  /-- The output. -/
  output : String
  /-- The reason of a failure. -/
  failure? : Option Failure
deriving DecidableEq, Repr

namespace Report

/-- The row of a line of code. -/
def lineRow (line : Line) : String :=
  Text.padLeft 5 (toString line.number) ++ " L" ++ Text.padRight 2 (toString line.level) ++ " " ++
    Text.hexWord line.fingerprint ++ " " ++ line.code

/-- The row of a token of a line. -/
def tokenRow (line : Line) (token : Token) : String :=
  Text.padLeft 5 (toString line.number) ++ " " ++
    Text.padRight 9 s!"{token.start}..{token.stop}" ++ " L" ++
    Text.padRight 2 (toString line.level) ++ " " ++
    token.category.name ++ " " ++ token.lexeme.shown ++ if token.invalid then " !" else ""

/-- The row of a diagnostic of a component. -/
def diagnosticRow (id : ComponentId) (diagnostic : Diagnostic) : String :=
  id.text ++ ": " ++ diagnostic.text

/-- The row of a component without diagnostics. -/
def cleanRow (unit : SourceUnit) : String :=
  unit.id.text ++ s!": ok ({unit.lines.length} lines)"

/-- The rows of all lines of code. -/
def lineRows (unit : SourceUnit) : List String :=
  unit.lines.map lineRow

/-- The rows of all tokens, or of those with a lexeme. -/
def tokenRows (skipWhitespace : Bool) (unit : SourceUnit) : List String :=
  unit.lines.flatMap fun line =>
    (line.tokens.filter fun token => !(skipWhitespace && token.lexeme.isNone)).map (tokenRow line)

/-- The rows of all diagnostics. -/
def diagnosticRows (unit : SourceUnit) : List String :=
  unit.diagnostics.map (diagnosticRow unit.id)

/-- Rows as lines of output. -/
def render (rows : List String) : String :=
  String.join (rows.map (· ++ "\n"))

/-- A report of success. -/
def success (rows : List String) : Report :=
  ⟨render rows, none⟩

/-- A report of failure. -/
def failed (rows : List String) (failure : Failure) : Report :=
  ⟨render rows, some failure⟩

/-! ## Commands -/

/-- Reads a source file. -/
def readSource (files : Files) (path : String) : Except Failure String :=
  match files path with
  | some (.file content) =>
    match String.fromUTF8? content with
    | some text => .ok text
    | none => .error (.source (.notText path))
  | _ => .error (.source (.notAFile path))

/-- The lines of code of a source file. -/
def loadLines (files : Files) (path : String) (presets : Presets) : Except Failure SourceUnit :=
  (readSource files path).map (.linearize (Path.componentId path) presets.indentation)

/-- The tokens of a source file. -/
def loadUnit (files : Files) (path : String) (presets : Presets) : Except Failure SourceUnit := do
  let unit ← loadLines files path presets
  (unit.tokenize presets.parallel).mapError .tokenize

section
variable {files : Files} {path source : String}

/-- The lines of a source file are those of its text. -/
theorem loadLines_eq (h : readSource files path = .ok source) (presets : Presets) :
    loadLines files path presets =
      .ok (.linearize (Path.componentId path) presets.indentation source) := by
  rw [loadLines, h]
  rfl

/-- The tokens of a source file are those of its text. -/
theorem loadUnit_eq (h : readSource files path = .ok source) (presets : Presets) :
    loadUnit files path presets =
      (SourceUnit.lex (Path.componentId path) presets source).mapError .tokenize := by
  rw [loadUnit, loadLines_eq h]
  rfl

end

/-- What a check says about a unit. -/
def ofCheck (unit : SourceUnit) : Report :=
  if unit.diagnostics.isEmpty then success [cleanRow unit]
  else failed (diagnosticRows unit) (.diagnostics unit.diagnostics.length)

/-- Runs a command on a source file. -/
def run (files : Files) (command : Command) (path : String) (presets : Presets) : Report :=
  match command with
  | .lines =>
    match loadLines files path presets with
    | .error failure => failed [] failure
    | .ok unit => success (lineRows unit)
  | .lex skipWhitespace =>
    match loadUnit files path presets with
    | .error failure => failed [] failure
    | .ok unit => success (tokenRows skipWhitespace unit ++ diagnosticRows unit)
  | .check =>
    match loadUnit files path presets with
    | .error failure => failed [] failure
    | .ok unit => ofCheck unit

section
variable {files : Files} {path : String} {presets : Presets} {unit : SourceUnit}

/-- The listing of the lines of a file that can be read. -/
theorem run_lines (h : loadLines files path presets = .ok unit) :
    run files .lines path presets = success (lineRows unit) := by
  simp only [run, h]

/-- The listing of the tokens of a file that can be read. -/
theorem run_lex (h : loadUnit files path presets = .ok unit) (skipWhitespace : Bool) :
    run files (.lex skipWhitespace) path presets =
      success (tokenRows skipWhitespace unit ++ diagnosticRows unit) := by
  simp only [run, h]

/-- The check of a file that can be read. -/
theorem run_check (h : loadUnit files path presets = .ok unit) :
    run files .check path presets = ofCheck unit := by
  simp only [run, h]

end

/-! ## Bounded output -/

/-- The first bytes of a text; a character cut in the middle shows as the replacement character. -/
def firstBytes : Nat → List Char → List Char
  | _, [] => []
  | room, c :: rest =>
    if c.utf8Size ≤ room then c :: firstBytes (room - c.utf8Size) rest
    else if room = 0 then [] else ['\uFFFD']

/-- The report on an output that takes a number of bytes and then fails. -/
def limit (report : Report) (room : Nat) : Report :=
  if report.output.utf8ByteSize ≤ room then report
  else ⟨String.ofList (firstBytes room report.output.toList), some (.stream .noRoom)⟩

end Report

end LineLexer
