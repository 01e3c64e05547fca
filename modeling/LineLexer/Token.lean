import LineLexer.Reserved.Basic

/-!
# Tokens

A token is a categorized lexeme with its span in the code of a line. `Token.tag`
builds one from a proposed category and a text: a text that is a reserved
spelling overrides the category, unless the category is that of a literal or of
documentation, whose lexemes are not raw source text.
-/

namespace LineLexer

/-- The lexical category of a token. -/
inductive Category where
  | whitespace
  | punctuation
  | keyword
  -- names
  | uncapitalizedName
  | label
  | predicate
  | capitalizedName
  -- parts of number literals
  | integer
  | binaryInteger
  | hexadecimalInteger
  | fraction
  | repetend
  -- quoted literals
  | string
  | rawString
  | binary
  | hex
  | documentation
deriving DecidableEq, Repr

namespace Category

/-- The categories in the order of their declaration. -/
def all : List Category :=
  [whitespace, punctuation, keyword, uncapitalizedName, label, predicate, capitalizedName,
   integer, binaryInteger, hexadecimalInteger, fraction, repetend, string, rawString, binary,
   hex, documentation]

/-- How listings name the category. -/
def name : Category → String
  | whitespace => "Whitespace"
  | punctuation => "Punctuation"
  | keyword => "Keyword"
  | uncapitalizedName => "UncapitalizedName"
  | label => "Label"
  | predicate => "Predicate"
  | capitalizedName => "CapitalizedName"
  | integer => "Integer"
  | binaryInteger => "BinaryInteger"
  | hexadecimalInteger => "HexadecimalInteger"
  | fraction => "Fraction"
  | repetend => "Repetend"
  | string => "String"
  | rawString => "RawString"
  | binary => "Binary"
  | hex => "Hex"
  | documentation => "Documentation"

/-- The category with a given name. -/
def ofName? (name : String) : Option Category :=
  all.find? (·.name == name)

/-- One of the four kinds of names. -/
def isName : Category → Bool
  | uncapitalizedName | label | predicate | capitalizedName => true
  | _ => false

/-- The integer part of a number literal. -/
def isInteger : Category → Bool
  | integer | binaryInteger | hexadecimalInteger => true
  | _ => false

/-- The fraction of a number literal. -/
def isFraction : Category → Bool
  | fraction => true
  | _ => false

/-- The repeating part of a number literal. -/
def isRepetend : Category → Bool
  | repetend => true
  | _ => false

/-- A part of a number literal. -/
def isNumber (category : Category) : Bool :=
  category.isInteger || category.isFraction || category.isRepetend

/-- A quoted literal. -/
def isQuoting : Category → Bool
  | string | rawString | binary | hex => true
  | _ => false

/-- A category whose lexeme is its raw source text, so that it may turn out to be reserved. -/
def isReservable (category : Category) : Bool :=
  category.isName || category == punctuation || category == keyword

end Category

/-- What a token says, beside its category. -/
inductive Lexeme where
  /-- Whitespace says nothing. -/
  | none
  | keyword (keyword : Keyword)
  | symbol (symbol : Symbol)
  | text (text : String)
deriving DecidableEq, Repr

namespace Lexeme

/-- The text, if it is not reserved. -/
def text? : Lexeme → Option String
  | text content => some content
  | _ => Option.none

/-- The identity, if it is reserved. -/
def id? : Lexeme → Option Nat
  | keyword k => some k.id
  | symbol s => some s.id
  | _ => Option.none

/-- The spelling; whitespace has none. -/
def spelling? : Lexeme → Option String
  | none => Option.none
  | keyword k => some k.spelling
  | symbol s => some s.spelling
  | text content => some content

/-- The spelling, empty for whitespace. -/
def spelling (lexeme : Lexeme) : String :=
  lexeme.spelling?.getD ""

/-- How listings show the lexeme. -/
def shown (lexeme : Lexeme) : String :=
  lexeme.spelling?.getD "null"

/-- No lexeme at all. -/
def isNone (lexeme : Lexeme) : Bool :=
  lexeme.spelling?.isNone

end Lexeme

/-- A categorized lexeme with its span. -/
structure Token where
  /-- Lexical category. -/
  category : Category
  /-- What the token says. -/
  lexeme : Lexeme
  /-- First column. -/
  start : Nat
  /-- Column after the last one. -/
  stop : Nat
  /-- Marked as faulty by the lexer. -/
  invalid : Bool
deriving DecidableEq, Repr

namespace Token

/-- Category and lexeme of a text for which a category is proposed. -/
def classify (category : Category) (text : String) : Category × Lexeme :=
  if category.isReservable then
    match Reserved.ofSpelling? text with
    | some (.keyword k) => (.keyword, .keyword k)
    | some (.symbol s) => (.punctuation, .symbol s)
    | none => (category, .text text)
  else (category, .text text)

/-- A token from a proposed category and a text; without a text it is whitespace. -/
def tag (category : Category) (text? : Option String) (start stop : Nat) (invalid : Bool) :
    Token :=
  match text? with
  | none => ⟨.whitespace, .none, start, stop, invalid⟩
  | some text =>
    let (category, lexeme) := classify category text
    ⟨category, lexeme, start, stop, invalid⟩

/-- A symbol token. -/
def ofSymbol (symbol : Symbol) (start stop : Nat) : Token :=
  ⟨.punctuation, .symbol symbol, start, stop, false⟩

/-- Number of characters covered. -/
def width (token : Token) : Nat :=
  token.stop - token.start

/-- How messages show a token. -/
def shown (token : Token) : String :=
  s!"{token.category.name} {token.start}..{token.stop} {token.lexeme.shown}" ++
    if token.invalid then " (invalid)" else ""

end Token

end LineLexer
