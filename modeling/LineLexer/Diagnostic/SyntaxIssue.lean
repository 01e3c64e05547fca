import LineLexer.Diagnostic.Phase
import LineLexer.Diagnostic.Message

/-!
# Syntax issues

The issues of the parsing phase, numbered from one without gaps. The lexer
raises those from eleven on; the ten before them are limits of the language.
-/

namespace LineLexer

/-- An issue of the parsing phase. -/
inductive SyntaxIssue where
  | tooManyLines
  | tooLongLine
  | tooManyIndentationLevels
  | tooLongName
  | tooManyNamespaces
  | tooManyParameters
  | tooNestedData
  | tooLongStringLiteral
  | tooLongNumberLiteral
  | tooLongDocumentation
  | indentationWithTab
  | illegalTab
  | illegalCharacter
  | illegalCharacterInWord
  | illegalCharacterInNumber
  | illegalCharacterInBinary
  | illegalCharacterInHex
  | invalidNumber
  | missingIntegerPart
  | missingDecimalPoint
  | uncompletedRepetend
  | invalidString
  | missingDemarcation
  | missingDemarcationBetweenLiterals
  | missingDemarcationFromNumber
  | missingDemarcationFromString
  | unknownStringPrefix
  | unknownPunctuation
deriving DecidableEq, Repr

namespace SyntaxIssue

/-- The issues in the order of their codes. -/
def all : List SyntaxIssue :=
  [tooManyLines, tooLongLine, tooManyIndentationLevels, tooLongName, tooManyNamespaces,
   tooManyParameters, tooNestedData, tooLongStringLiteral, tooLongNumberLiteral,
   tooLongDocumentation, indentationWithTab, illegalTab, illegalCharacter,
   illegalCharacterInWord, illegalCharacterInNumber, illegalCharacterInBinary,
   illegalCharacterInHex, invalidNumber, missingIntegerPart, missingDecimalPoint,
   uncompletedRepetend, invalidString, missingDemarcation, missingDemarcationBetweenLiterals,
   missingDemarcationFromNumber, missingDemarcationFromString, unknownStringPrefix,
   unknownPunctuation]

/-- The code of an issue within its phase. -/
def code : SyntaxIssue → Nat
  | tooManyLines => 1
  | tooLongLine => 2
  | tooManyIndentationLevels => 3
  | tooLongName => 4
  | tooManyNamespaces => 5
  | tooManyParameters => 6
  | tooNestedData => 7
  | tooLongStringLiteral => 8
  | tooLongNumberLiteral => 9
  | tooLongDocumentation => 10
  | indentationWithTab => 11
  | illegalTab => 12
  | illegalCharacter => 13
  | illegalCharacterInWord => 14
  | illegalCharacterInNumber => 15
  | illegalCharacterInBinary => 16
  | illegalCharacterInHex => 17
  | invalidNumber => 18
  | missingIntegerPart => 19
  | missingDecimalPoint => 20
  | uncompletedRepetend => 21
  | invalidString => 22
  | missingDemarcation => 23
  | missingDemarcationBetweenLiterals => 24
  | missingDemarcationFromNumber => 25
  | missingDemarcationFromString => 26
  | unknownStringPrefix => 27
  | unknownPunctuation => 28

/-- The issue with a given code. -/
def ofCode? : Nat → Option SyntaxIssue
  | 0 => none
  | index + 1 => all[index]?

/-- The number of an issue among the diagnostics of all phases. -/
def number (issue : SyntaxIssue) : Nat :=
  Phase.parsing.digit * 100 + issue.code

/-- The message template of an issue. -/
def template (issue : SyntaxIssue) : String :=
  (Message.template? issue.number).getD (String.singleton Message.marker)

/-- An issue about two lexemes that need something between them. -/
def isDemarcation : SyntaxIssue → Bool
  | missingDemarcation | missingDemarcationBetweenLiterals
  | missingDemarcationFromNumber | missingDemarcationFromString => true
  | _ => false

/-- Every issue is found again by its code. -/
theorem ofCode?_code (issue : SyntaxIssue) : ofCode? issue.code = some issue := by
  cases issue <;> rfl

end SyntaxIssue

end LineLexer
