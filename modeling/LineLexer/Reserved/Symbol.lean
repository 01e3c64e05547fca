/-!
# Symbols

The punctuation and operator symbols of the language, each one or two characters
long. A symbol is *unambiguous* if no longer symbol starts with it, so that a
lexer can commit to it at once, and *demarcating* if names and literals may stand
right behind it. Identity numbers run from `Symbol.firstId` without gaps in the
order of `Symbol.all`.
-/

namespace LineLexer

/-- A punctuation or operator symbol. -/
inductive Symbol where
  -- declaring
  | specifier
  | definer
  | omissionOrDefault
  -- separating
  | lister
  | «end»
  -- grouping
  | tupleBegin
  | tupleEnd
  | indexBegin
  | indexEnd
  | setBegin
  | setEnd
  -- qualifying
  | valueCaller
  | methodCaller
  | qualifierOrNumbering
  | typeHinter
  | dereferOrPointer
  -- patterns
  | arrow
  | ellipsis
  | function
  | placeholder
  | variantSeparator
  -- types
  | mutable
  | optional
  -- arithmetic
  | adding
  | reducing
  | tolerating
  | uniqueOrMultiplying
  | potentiating
  | dividing
  | extracting
  -- comparison
  | equal
  | unequal
  | less
  | notGreater
  | lessOrEqual
  | greater
  | notLess
  | greaterOrEqual
  -- data
  | concating
  | pairBuilder
  | crossing
  | attributingLeft
  | attributingRight
  | nesting
  -- sequencing
  | flowLeft
  | flowRight
  | transmitLeft
  | transmitRight
  | parallel
  -- assignment
  | binding
  | assignment
  | borrowing
  -- memory
  | address
  -- units of measurement
  | percent
deriving DecidableEq, Repr

/-- What the registry says about a symbol. -/
structure SymbolEntry where
  /-- The characters of the symbol. -/
  chars : List Char
  /-- No longer symbol starts with it. -/
  unambiguous : Bool
  /-- Names and literals may stand right behind it. -/
  demarcating : Bool
deriving DecidableEq, Repr

namespace Symbol

/-- The symbols in the order of their identities. -/
def all : List Symbol :=
  [.specifier, .definer, .omissionOrDefault, .lister, .«end», .tupleBegin, .tupleEnd,
   .indexBegin, .indexEnd, .setBegin, .setEnd, .valueCaller, .methodCaller,
   .qualifierOrNumbering, .typeHinter, .dereferOrPointer, .arrow, .ellipsis, .function,
   .placeholder, .variantSeparator, .mutable, .optional, .adding, .reducing, .tolerating,
   .uniqueOrMultiplying, .potentiating, .dividing, .extracting, .equal, .unequal, .less,
   .notGreater, .lessOrEqual, .greater, .notLess, .greaterOrEqual, .concating, .pairBuilder,
   .crossing, .attributingLeft, .attributingRight, .nesting, .flowLeft, .flowRight,
   .transmitLeft, .transmitRight, .parallel, .binding, .assignment, .borrowing, .address,
   .percent]

/-- The registry. -/
def entry : Symbol → SymbolEntry
  | .specifier => ⟨[':'], false, true⟩
  | .definer => ⟨['='], false, false⟩
  | .omissionOrDefault => ⟨['~'], true, true⟩
  | .lister => ⟨[','], true, true⟩
  | .«end» => ⟨[';'], true, true⟩
  | .tupleBegin => ⟨['('], true, true⟩
  | .tupleEnd => ⟨[')'], true, true⟩
  | .indexBegin => ⟨['['], true, true⟩
  | .indexEnd => ⟨[']'], true, true⟩
  | .setBegin => ⟨['{'], true, true⟩
  | .setEnd => ⟨['}'], true, true⟩
  | .valueCaller => ⟨['$'], true, true⟩
  | .methodCaller => ⟨['&'], true, true⟩
  | .qualifierOrNumbering => ⟨['.'], false, true⟩
  | .typeHinter => ⟨[':', ':'], true, true⟩
  | .dereferOrPointer => ⟨['^'], true, true⟩
  | .arrow => ⟨['-', '>'], true, false⟩
  | .ellipsis => ⟨['.', '.'], true, true⟩
  | .function => ⟨['\\'], true, true⟩
  | .placeholder => ⟨['_'], true, false⟩
  | .variantSeparator => ⟨['|'], false, false⟩
  | .mutable => ⟨['!'], true, true⟩
  | .optional => ⟨['?'], true, true⟩
  | .adding => ⟨['+'], false, false⟩
  | .reducing => ⟨['-'], false, false⟩
  | .tolerating => ⟨['+', '-'], true, false⟩
  | .uniqueOrMultiplying => ⟨['*'], false, true⟩
  | .potentiating => ⟨['*', '*'], true, true⟩
  | .dividing => ⟨['/'], false, true⟩
  | .extracting => ⟨['/', '/'], true, true⟩
  | .equal => ⟨['=', '='], true, false⟩
  | .unequal => ⟨['/', '='], true, false⟩
  | .less => ⟨['<'], false, false⟩
  | .notGreater => ⟨['/', '>'], true, false⟩
  | .lessOrEqual => ⟨['=', '<'], true, false⟩
  | .greater => ⟨['>'], false, false⟩
  | .notLess => ⟨['/', '<'], true, false⟩
  | .greaterOrEqual => ⟨['>', '='], true, false⟩
  | .concating => ⟨['<', '>'], true, false⟩
  | .pairBuilder => ⟨['=', '>'], true, false⟩
  | .crossing => ⟨['>', '<'], true, false⟩
  | .attributingLeft => ⟨['<', ':'], true, false⟩
  | .attributingRight => ⟨[':', '>'], true, false⟩
  | .nesting => ⟨['<', '/'], true, false⟩
  | .flowLeft => ⟨['<', '<'], true, false⟩
  | .flowRight => ⟨['>', '>'], true, false⟩
  | .transmitLeft => ⟨['<', '*'], true, false⟩
  | .transmitRight => ⟨['*', '>'], true, false⟩
  | .parallel => ⟨['|', '|'], true, false⟩
  | .binding => ⟨['<', '-'], true, false⟩
  | .assignment => ⟨[':', '='], true, false⟩
  | .borrowing => ⟨['<', '='], true, false⟩
  | .address => ⟨['@'], true, true⟩
  | .percent => ⟨['%'], true, true⟩

/-- The characters of the symbol. -/
def chars (symbol : Symbol) : List Char :=
  symbol.entry.chars

/-- How the symbol is written in a source text. -/
def spelling (symbol : Symbol) : String :=
  String.ofList symbol.chars

/-- No longer symbol starts with this one. -/
def unambiguous (symbol : Symbol) : Bool :=
  symbol.entry.unambiguous

/-- Names and literals may stand right behind this symbol. -/
def demarcating (symbol : Symbol) : Bool :=
  symbol.entry.demarcating

/-- The identity of the first symbol. -/
def firstId : Nat := 61

/-- The identity number. -/
def id (symbol : Symbol) : Nat :=
  firstId + all.idxOf symbol

/-- The symbol with a given identity. -/
def ofId? (id : Nat) : Option Symbol :=
  if id < firstId then none else all[id - firstId]?

/-- The symbol that consists of the given characters. -/
def ofChars? (chars : List Char) : Option Symbol :=
  all.find? (·.chars == chars)

/-- The symbol with a given spelling. -/
def ofSpelling? (text : String) : Option Symbol :=
  ofChars? text.toList

/-- The symbol that consists of one given character. -/
def ofChar? (c : Char) : Option Symbol :=
  ofChars? [c]

/-- The demarcating symbols in the order of their identities. -/
def demarcators : List Symbol :=
  all.filter demarcating

/-- The list of all symbols is complete. -/
theorem mem_all (symbol : Symbol) : symbol ∈ all := by
  cases symbol <;> decide

/-- Every symbol is found again by its identity. -/
theorem ofId?_id (symbol : Symbol) : ofId? symbol.id = some symbol := by
  cases symbol <;> rfl

/-- Every symbol is found again by its characters. -/
theorem ofChars?_chars (symbol : Symbol) : ofChars? symbol.chars = some symbol := by
  have hall : ∀ s ∈ all, ofChars? s.chars = some s := by decide +kernel
  exact hall symbol symbol.mem_all

/-- The symbol found for some characters consists of them. -/
theorem chars_of_ofChars? {chars : List Char} {symbol : Symbol}
    (h : ofChars? chars = some symbol) : symbol.chars = chars := by
  simpa using List.find?_some h

/-- A text is found as a symbol exactly if it is the spelling of one. -/
theorem ofSpelling?_eq_some_iff {text : String} {symbol : Symbol} :
    ofSpelling? text = some symbol ↔ symbol.spelling = text := by
  constructor
  · intro h
    rw [spelling, chars_of_ofChars? h, String.ofList_toList]
  · intro h
    rw [← h, ofSpelling?, spelling, String.toList_ofList, ofChars?_chars]

end Symbol

end LineLexer
