import LineLexer.Diagnostic.Location
import LineLexer.Diagnostic.SyntaxIssue
import LineLexer.Text.Quoted

/-!
# Diagnostics

A diagnostic names a phase and an issue of it, points at no, one or two places,
and carries the identifiers that fill the markers of its message template.
`Diagnostic.raise` accepts exactly the issues that have a template.
-/

namespace LineLexer

/-- A phase or an issue that does not exist. -/
inductive CodeError where
  | invalidCode (phase : Phase) (issue number : Nat)
  | invalidPhase (digit : Nat)
deriving DecidableEq, Repr

namespace CodeError

/-- What the user is told. -/
def message : CodeError → String
  | invalidCode phase issue number =>
    s!"'{phase.letter}.{issue}' is not a valid error code (number {number})"
  | invalidPhase digit => s!"Invalid phase: {digit}"

/-- The error with its fields, on one line. -/
def inspect : CodeError → String
  | invalidCode phase issue number =>
    "InvalidCode \x7b abbr: " ++ Text.quoted phase.letter ++
      s!", issue: {issue}, number: {number} \x7d"
  | invalidPhase digit => s!"InvalidPhase({digit})"

end CodeError

/-- The phase with a given digit, or the error that there is none. -/
def Phase.ofDigit (digit : Nat) : Except CodeError Phase :=
  match Phase.ofDigit? digit with
  | some phase => .ok phase
  | none => .error (.invalidPhase digit)

/-- A finding about a component. -/
structure Diagnostic where
  /-- Phase that raised it. -/
  phase : Phase
  /-- Issue within the phase. -/
  issue : Nat
  /-- Places it points at. -/
  locations : Locations
  /-- Identifiers for the markers of the template. -/
  ids : List String
deriving DecidableEq, Repr

namespace Diagnostic

/-- The number of an issue of a phase: the digit of the phase counts hundreds. -/
def numberOf (phase : Phase) (issue : Nat) : Nat :=
  phase.digit * 100 + issue

/-- A diagnostic for an issue that has a template; issues have at most two digits. -/
def raise (phase : Phase) (issue : Nat) (locations : Locations) (ids : List String) :
    Except CodeError Diagnostic :=
  let number := numberOf phase issue
  if 100 ≤ issue ∨ (Message.template? number).isNone then
    .error (.invalidCode phase issue number)
  else
    .ok { phase, issue, locations, ids }

/-- The diagnostic of a syntax issue. -/
def ofIssue (issue : SyntaxIssue) (locations : Locations) : Diagnostic :=
  { phase := .parsing, issue := issue.code, locations, ids := [] }

/-- The number of the diagnostic. -/
def number (diagnostic : Diagnostic) : Nat :=
  numberOf diagnostic.phase diagnostic.issue

/-- The code of the diagnostic, such as `S.13`. -/
def code (diagnostic : Diagnostic) : String :=
  s!"{diagnostic.phase.letter}.{diagnostic.issue}"

/-- The message template; an issue without one has a single marker. -/
def template (diagnostic : Diagnostic) : String :=
  (Message.template? diagnostic.number).getD (String.singleton Message.marker)

/-- The template with its markers filled. -/
def message (diagnostic : Diagnostic) : String :=
  Message.substitute diagnostic.template diagnostic.ids

/-- The full text: what it is, its message, and the places. -/
def text (diagnostic : Diagnostic) : String :=
  s!"{diagnostic.phase.name} {diagnostic.code}: {diagnostic.message}" ++
    String.join (diagnostic.locations.toList.map fun location => " @ " ++ location.text)

end Diagnostic

end LineLexer
