/-!
# Keywords

The reserved words of the language. Every keyword has an identity number, and
the numbers run from `Keyword.firstId` without gaps in the order of `Keyword.all`.
A text is found as a keyword exactly if it is the spelling of one:
`Keyword.ofSpelling?_eq_some_iff`.
-/

namespace LineLexer

/-- A reserved word. -/
inductive Keyword where
  -- declarations that introduce
  | alias
  | component
  | concept
  | install
  | metric
  | nonmetric
  | preinstall
  | «section»
  | subtype
  | supertype
  | type
  | use
  -- declarations that supplement
  | adopts
  | as
  | «deriving»
  | ex
  | «forall»
  | given
  | has
  | is
  | provides
  | under
  | unqualified
  | «where»
  | «with»
  -- expressions
  | auto
  | «break»
  | case
  | «continue»
  | «do»
  | «else»
  | «for»
  | «if»
  | «in»
  | «let»
  | loop
  | «module»
  | of
  | «return»
  | «then»
  | «unless»
  | «using»
  | «while»
  -- verbal operators
  | and
  | inQuery
  | isQuery
  | nand
  | nor
  | not
  | or
  | xnor
  | xor
deriving DecidableEq, Repr

namespace Keyword

/-- The keywords in the order of their identities. -/
def all : List Keyword :=
  [.alias, .component, .concept, .install, .metric, .nonmetric, .preinstall, .«section»,
   .subtype, .supertype, .type, .use, .adopts, .as, .«deriving», .ex, .«forall», .given, .has,
   .is, .provides, .under, .unqualified, .«where», .«with», .auto, .«break», .case, .«continue»,
   .«do», .«else», .«for», .«if», .«in», .«let», .loop, .«module», .of, .«return», .«then»,
   .«unless», .«using», .«while», .and, .inQuery, .isQuery, .nand, .nor, .not, .or, .xnor, .xor]

/-- How the keyword is written in a source text. -/
def spelling : Keyword → String
  | .alias => "alias"
  | .component => "component"
  | .concept => "concept"
  | .install => "install"
  | .metric => "metric"
  | .nonmetric => "nonmetric"
  | .preinstall => "preinstall"
  | .«section» => "section"
  | .subtype => "subtype"
  | .supertype => "supertype"
  | .type => "type"
  | .use => "use"
  | .adopts => "adopts"
  | .as => "as"
  | .«deriving» => "deriving"
  | .ex => "ex"
  | .«forall» => "forall"
  | .given => "given"
  | .has => "has"
  | .is => "is"
  | .provides => "provides"
  | .under => "under"
  | .unqualified => "unqualified"
  | .«where» => "where"
  | .«with» => "with"
  | .auto => "auto"
  | .«break» => "break"
  | .case => "case"
  | .«continue» => "continue"
  | .«do» => "do"
  | .«else» => "else"
  | .«for» => "for"
  | .«if» => "if"
  | .«in» => "in"
  | .«let» => "let"
  | .loop => "loop"
  | .«module» => "module"
  | .of => "of"
  | .«return» => "return"
  | .«then» => "then"
  | .«unless» => "unless"
  | .«using» => "using"
  | .«while» => "while"
  | .and => "and"
  | .inQuery => "in?"
  | .isQuery => "is?"
  | .nand => "nand"
  | .nor => "nor"
  | .not => "not"
  | .or => "or"
  | .xnor => "xnor"
  | .xor => "xor"

/-- The identity of the first keyword. -/
def firstId : Nat := 1

/-- The identity number. -/
def id (keyword : Keyword) : Nat :=
  firstId + all.idxOf keyword

/-- The keyword with a given identity. -/
def ofId? (id : Nat) : Option Keyword :=
  if id < firstId then none else all[id - firstId]?

/-- The keyword with a given spelling. -/
def ofSpelling? (text : String) : Option Keyword :=
  all.find? (·.spelling == text)

/-- The list of all keywords is complete. -/
theorem mem_all (keyword : Keyword) : keyword ∈ all := by
  cases keyword <;> decide

/-- Every keyword is found again by its identity. -/
theorem ofId?_id (keyword : Keyword) : ofId? keyword.id = some keyword := by
  cases keyword <;> rfl

/-! ## Spellings -/

/-- Every keyword is found again by its spelling. -/
theorem ofSpelling?_spelling (keyword : Keyword) :
    ofSpelling? keyword.spelling = some keyword := by
  have hall : ∀ k ∈ all, ofSpelling? k.spelling = some k := by decide +kernel
  exact hall keyword keyword.mem_all

section
variable {text : String} {keyword : Keyword}

/-- The keyword found under a spelling is spelled so. -/
theorem spelling_of_ofSpelling? (h : ofSpelling? text = some keyword) :
    keyword.spelling = text := by
  simpa using List.find?_some h

theorem ofSpelling?_eq_some_iff : ofSpelling? text = some keyword ↔ keyword.spelling = text :=
  ⟨spelling_of_ofSpelling?, fun h => h ▸ ofSpelling?_spelling keyword⟩

/-- What is not found is not spelled by any keyword. -/
theorem ofSpelling?_eq_none_iff :
    ofSpelling? text = none ↔ ∀ keyword : Keyword, keyword.spelling ≠ text := by
  simp only [Option.eq_none_iff_forall_ne_some, ne_eq, ofSpelling?_eq_some_iff]

end

end Keyword

end LineLexer
