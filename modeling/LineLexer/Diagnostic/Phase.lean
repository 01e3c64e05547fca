/-!
# Phases

The phases of a compilation that a diagnostic can be attributed to. A phase has
a digit, which leads the number of each of its diagnostics, and a letter, which
leads their codes.
-/

namespace LineLexer

/-- A phase of the compilation. -/
inductive Phase where
  | warning
  | building
  | parsing
  | resolving
  | analyzing
  | running
deriving DecidableEq, Repr

namespace Phase

/-- The phases in the order of their digits. -/
def all : List Phase :=
  [warning, building, parsing, resolving, analyzing, running]

/-- The digit that leads the numbers of the phase. -/
def digit : Phase → Nat
  | warning => 0
  | building => 1
  | parsing => 2
  | resolving => 3
  | analyzing => 4
  | running => 5

/-- The letter that leads the codes of the phase. -/
def letter : Phase → String
  | warning => "W"
  | building => "B"
  | parsing => "S"
  | resolving => "N"
  | analyzing => "A"
  | running => "R"

/-- What a message calls a diagnostic of the phase. -/
def name : Phase → String
  | warning => "Warning"
  | building => "Build Error"
  | parsing => "Syntax Error"
  | resolving => "Name Resolution Error"
  | analyzing => "Static Analysis Error"
  | running => "Runtime Error"

/-- The phase with a given digit. -/
def ofDigit? (digit : Nat) : Option Phase :=
  all[digit]?

/-- Every phase is found again by its digit. -/
theorem ofDigit?_digit (phase : Phase) : ofDigit? phase.digit = some phase := by
  cases phase <;> rfl

end Phase

end LineLexer
