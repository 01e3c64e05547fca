import LineLexer.Reserved.Keyword
import LineLexer.Reserved.Symbol

/-!
# Reserved lexemes

A reserved lexeme is a keyword or a symbol. The identities of the two kinds do
not overlap, and no text spells both. So the spellings are a table without
doublets, and looking a text up in it finds the lexeme that the text spells, if
there is one: `Reserved.ofSpelling?_eq_some_iff`, `Reserved.ofSpelling?_eq_none_iff`.
-/

namespace LineLexer

/-- A keyword or a symbol. -/
inductive Reserved where
  | keyword (keyword : Keyword)
  | symbol (symbol : Symbol)
deriving DecidableEq, Repr

namespace Reserved

/-- How the lexeme is written in a source text. -/
def spelling : Reserved → String
  | keyword k => k.spelling
  | symbol s => s.spelling

/-- The identity number. -/
def id : Reserved → Nat
  | keyword k => k.id
  | symbol s => s.id

/-- The reserved lexeme with a given spelling. -/
def ofSpelling? (text : String) : Option Reserved :=
  match Keyword.ofSpelling? text with
  | some k => some (keyword k)
  | none => (Symbol.ofSpelling? text).map symbol

/-- The reserved lexeme with a given identity. -/
def ofId? (id : Nat) : Option Reserved :=
  match Keyword.ofId? id with
  | some k => some (keyword k)
  | none => (Symbol.ofId? id).map symbol

/-! ## Spellings -/

/-- No keyword is spelled as a symbol is. -/
theorem spelling_keyword_ne (k : Keyword) (s : Symbol) : k.spelling ≠ s.spelling := by
  intro h
  have hall : ∀ k ∈ Keyword.all, Symbol.ofSpelling? k.spelling = none := by decide +kernel
  have hnone := hall k k.mem_all
  rw [Symbol.ofSpelling?_eq_some_iff.2 h.symm] at hnone
  exact nomatch hnone

section
variable {text : String} {reserved : Reserved}

/-- What is found under a spelling is spelled so. -/
theorem spelling_of_ofSpelling? (h : ofSpelling? text = some reserved) :
    reserved.spelling = text := by
  unfold ofSpelling? at h
  split at h
  · next k hk =>
    obtain rfl : keyword k = reserved := Option.some.inj h
    exact Keyword.spelling_of_ofSpelling? hk
  · obtain ⟨s, hs, rfl⟩ := Option.map_eq_some_iff.1 h
    exact Symbol.ofSpelling?_eq_some_iff.1 hs

/-- Every reserved lexeme is found again by its spelling. -/
theorem ofSpelling?_spelling (reserved : Reserved) :
    ofSpelling? reserved.spelling = some reserved := by
  cases reserved with
  | keyword k => simp only [ofSpelling?, spelling, Keyword.ofSpelling?_spelling]
  | symbol s =>
    have hkeyword : Keyword.ofSpelling? s.spelling = none :=
      Keyword.ofSpelling?_eq_none_iff.2 fun k => spelling_keyword_ne k s
    have hsymbol : Symbol.ofSpelling? s.spelling = some s := Symbol.ofSpelling?_eq_some_iff.2 rfl
    simp only [ofSpelling?, spelling, hkeyword, hsymbol, Option.map_some]

theorem ofSpelling?_eq_some_iff :
    ofSpelling? text = some reserved ↔ reserved.spelling = text :=
  ⟨spelling_of_ofSpelling?, fun h => h ▸ ofSpelling?_spelling reserved⟩

/-- What is not found is not spelled by any reserved lexeme. -/
theorem ofSpelling?_eq_none_iff :
    ofSpelling? text = none ↔ ∀ reserved : Reserved, reserved.spelling ≠ text := by
  simp only [Option.eq_none_iff_forall_ne_some, ne_eq, ofSpelling?_eq_some_iff]

end

end Reserved

end LineLexer
