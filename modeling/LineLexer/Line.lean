import LineLexer.Scan.Run
import LineLexer.Text.Fingerprint

/-!
# Lines

A line is the code of one physical line of a source text, without indentation and
comment, together with its number and level. Tokens are attached to it at most
once.
-/

namespace LineLexer

/-- An attempt to attach tokens a second time. -/
inductive TokenizeError where
  | lineAlreadyTokenized (line : Nat)
  | unitAlreadyTokenized (component : String)
deriving DecidableEq, Repr

namespace TokenizeError

/-- What the user is told. -/
def message : TokenizeError → String
  | lineAlreadyTokenized line => s!"Line {line} has already been tokenized"
  | unitAlreadyTokenized component => s!"Component '{component}' has already been tokenized"

/-- The error with its fields, on one line. -/
def inspect : TokenizeError → String
  | lineAlreadyTokenized line => s!"AlreadyTokenized \x7b line: {line} \x7d"
  | unitAlreadyTokenized component =>
    "UnitAlreadyTokenized \x7b component: " ++ Text.quoted component ++ " \x7d"

end TokenizeError

/-- A line of code. -/
structure Line where
  /-- Number of the physical line, counted from one. -/
  number : Nat
  /-- Indentation level. -/
  level : Nat
  /-- The code. -/
  code : String
  /-- The tokens of the code, once attached. -/
  tokens? : Option (List Token) := none
deriving DecidableEq, Repr

namespace Line

/-- The fingerprint of the code. -/
def fingerprint (line : Line) : UInt64 :=
  Text.fingerprint line.code

/-- Tokens have been attached. -/
def isTokenized (line : Line) : Bool :=
  line.tokens?.isSome

/-- The attached tokens, none before they are attached. -/
def tokens (line : Line) : List Token :=
  line.tokens?.getD []

/-- Attaches tokens, the first time. -/
def attach (line : Line) (tokens : List Token) : Except TokenizeError Line :=
  if line.isTokenized then .error (.lineAlreadyTokenized line.number)
  else .ok { line with tokens? := some tokens }

/-- The tokens of the code and the diagnostics about it. -/
def tokenize (line : Line) : List Token × List Diagnostic :=
  let output := Scan.scan line.code.toList
  (output.tokens, output.faults.map (·.diagnostic line.number line.level))

/-- The tokens of the code, with the diagnostics about it added to earlier ones. -/
def tokenizeInto (line : Line) (earlier : List Diagnostic) : List Token × List Diagnostic :=
  let (tokens, diagnostics) := line.tokenize
  (tokens, earlier ++ diagnostics)

/-- Without earlier diagnostics, these are the diagnostics about the code. -/
@[simp]
theorem tokenizeInto_nil (line : Line) : line.tokenizeInto [] = line.tokenize := rfl

end Line

end LineLexer
