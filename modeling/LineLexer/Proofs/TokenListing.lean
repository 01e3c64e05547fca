import LineLexer.Proofs.Content
import LineLexer.Proofs.Rows
import LineLexer.Proofs.Template

/-!
# The listings of tokens and of diagnostics

The rows of the listings are made from parts of a source text, so that each is a row of its own is
not clear from their form. But no lexeme has a newline in it, no message has one, and none comes
with the places of a diagnostic: every token and every diagnostic has exactly one row, unless the
name of the component has newlines. The listing without whitespace leaves out tokens that say
nothing, and these are the whitespace tokens. A row begins with the place of its token, and that can
be read back, so the order of the tokens shows in the output. So the reports on a source file agree
wherever they are about the same things: `Report.run_listings`.

* `SourceUnit.placedTokens`: the tokens of a unit with their lines;
* `Report.readTokenRow?`: the place of a token, read back from its row;
* `Report.Shows`: the rows and the failure of a report;
* `Report.Listings`: how the reports on a source file belong together.
-/

namespace LineLexer

/-! ## Messages -/

theorem Message.oneLine_of_mem_templates : ∀ entry ∈ templates, Text.OneLine entry.2 := by
  simp only [templates, List.forall_mem_cons, List.not_mem_nil, false_imp_iff, implies_true,
    and_true]
  repeat' apply And.intro
  all_goals exact Text.oneLine_ofList (by decide)

theorem Message.oneLine_of_template? {number : Nat} {template : String}
    (h : template? number = some template) : Text.OneLine template := by
  obtain ⟨before, after, htemplates, -⟩ := List.lookup_eq_some_iff.1 h
  refine oneLine_of_mem_templates (number, template) ?_
  rw [htemplates]
  exact List.mem_append_right _ List.mem_cons_self

theorem Message.oneLine_substitute {template : String} {ids : List String}
    (htemplate : Text.OneLine template) (hids : ∀ id ∈ ids, Text.OneLine id) :
    Text.OneLine (substitute template ids) := by
  rw [Text.OneLine, toList_substitute]
  intro hmem
  rcases mem_pass hmem with hmem | ⟨id, hid, hmem⟩
  · exact htemplate hmem
  · exact hids id hid hmem

theorem Location.oneLine_text (location : Location) : Text.OneLine location.text := by
  have hliterals : Text.OneLine ":L" ∧ Text.OneLine "+" ∧ Text.OneLine ":" := by decide
  simp only [Location.text, Text.oneLine_append, Text.oneLine_toString, Text.oneLine_toString_text,
    hliterals, and_self]

namespace Diagnostic

theorem oneLine_template (d : Diagnostic) : Text.OneLine d.template := by
  rw [template]
  cases h : Message.template? d.number with
  | none => decide
  | some text => exact Message.oneLine_of_template? h

theorem oneLine_code (d : Diagnostic) : Text.OneLine d.code := by
  have hletter : Text.OneLine d.phase.letter := by
    cases d.phase <;> exact Text.oneLine_ofList (by decide)
  have hpoint : Text.OneLine "." := by decide
  simp only [code, Text.oneLine_append, Text.oneLine_toString, Text.oneLine_toString_text, hletter,
    hpoint, and_self]

/-- The text of a diagnostic is one line, if its identifiers are. -/
theorem oneLine_text {d : Diagnostic} (h : ∀ id ∈ d.ids, Text.OneLine id) :
    Text.OneLine d.text := by
  have hname : Text.OneLine d.phase.name := by
    cases d.phase <;> exact Text.oneLine_ofList (by decide)
  have hliterals : Text.OneLine " " ∧ Text.OneLine ": " ∧ Text.OneLine " @ " := by decide
  have hmessage : Text.OneLine d.message := Message.oneLine_substitute d.oneLine_template h
  have hplaces : Text.OneLine
      (String.join (d.locations.toList.map fun location => " @ " ++ location.text)) := by
    refine Text.oneLine_join.2 (List.forall_mem_map.2 fun location _ => ?_)
    exact Text.oneLine_append.2 ⟨hliterals.2.2, location.oneLine_text⟩
  simp only [text, Text.oneLine_append, Text.oneLine_toString_text, hname, d.oneLine_code,
    hliterals, hmessage, hplaces, and_self]

end Diagnostic

/-! ## Tokens of a unit -/

/-- Where a token stands. -/
structure TokenPlace where
  /-- Number of the line. -/
  number : Nat
  /-- First column. -/
  start : Nat
  /-- Column behind the last one. -/
  stop : Nat
deriving DecidableEq, Repr

/-- The place of a token of this line. -/
def Line.placeOf (line : Line) (t : Token) : TokenPlace :=
  ⟨line.number, t.start, t.stop⟩

namespace SourceUnit

/-- All attached tokens with their lines. -/
def placedTokens (unit : SourceUnit) : List (Line × Token) :=
  unit.lines.flatMap fun line => line.tokens.map (line, ·)

/-- With the numbers of the lines alone, these are the tokens of the unit. -/
theorem map_placedTokens (unit : SourceUnit) :
    unit.placedTokens.map (fun entry => (entry.1.number, entry.2)) = unit.tokens := by
  simp only [placedTokens, tokens, List.map_flatMap, List.map_map]
  rfl

/-- The order of lines and, in a line, of columns. -/
def Precedes (first second : Line × Token) : Prop :=
  first.1.number < second.1.number ∨
    first.1.number = second.1.number ∧ first.2.stop ≤ second.2.start

section
variable {id : ComponentId} {presets : Presets} {source : String} {unit : SourceUnit} {line : Line}
  {t : Token} {d : Diagnostic}

theorem id_of_lex (h : lex id presets source = .ok unit) : unit.id = id := by
  rw [lex_eq] at h
  rw [← Except.ok.inj h]

/-- A placed token belongs to the code of its line, which has no newline. -/
theorem faithful_of_mem_placedTokens (h : lex id presets source = .ok unit)
    (hmem : (line, t) ∈ unit.placedTokens) :
    t.Faithful line.code.toList ∧ Text.OneLine line.code := by
  rw [lex_eq] at h
  rw [← Except.ok.inj h, placedTokens] at hmem
  obtain ⟨other, hother, ht⟩ := List.mem_flatMap.1 hmem
  obtain ⟨t, ht, heq⟩ := List.mem_map.1 ht
  cases heq
  obtain ⟨line, hline, rfl⟩ := List.mem_map.1 hother
  have hcode : Text.OneLine line.code := Layout.newline_notMem_of_mem_linesOf hline
  exact ⟨Scan.scan_faithful line.code.toList t ht, hcode⟩

/-- Tokens stand in the order of their places. -/
theorem pairwise_placedTokens (h : lex id presets source = .ok unit) :
    unit.placedTokens.Pairwise Precedes := by
  rw [lex_eq] at h
  rw [← Except.ok.inj h, placedTokens, List.flatMap_map]
  refine List.pairwise_flatMap.2 ⟨fun line _ => ?_, ?_⟩
  · have htiles := (Scan.scan_tiles line.code.toList).pairwise
    exact List.pairwise_map.2 (htiles.imp fun hle => .inr ⟨rfl, hle⟩)
  · refine (Layout.linesOf_pairwise presets.indentation source.toList).imp ?_
    intro first second hlt x hx y hy
    obtain ⟨-, -, rfl⟩ := List.mem_map.1 hx
    obtain ⟨-, -, rfl⟩ := List.mem_map.1 hy
    exact .inl hlt

/-- The lexer puts no identifiers into its diagnostics. -/
theorem ids_of_mem_diagnostics (h : lex id presets source = .ok unit)
    (hd : d ∈ unit.diagnostics) : d.ids = [] := by
  rw [lex_eq] at h
  rw [← Except.ok.inj h] at hd
  obtain ⟨line, -, hd⟩ := List.mem_flatMap.1 hd
  obtain ⟨fault, -, rfl⟩ := List.mem_map.1 hd
  rfl

end

end SourceUnit

/-! ## Rows -/

theorem Category.oneLine_name (category : Category) : Text.OneLine category.name := by
  cases category <;> exact Text.oneLine_ofList (by decide)

/-- Only whitespace has no lexeme. -/
theorem Lexeme.isNone_iff (lexeme : Lexeme) : lexeme.isNone = true ↔ lexeme = .none := by
  cases lexeme <;> simp [isNone, spelling?]

/-- What is shown of a lexeme is on one line, as its code is. -/
theorem Token.Faithful.oneLine_shown {code : List Char} {t : Token} (h : t.Faithful code)
    (hcode : '\n' ∉ code) : Text.OneLine t.lexeme.shown := by
  rw [Lexeme.shown]
  cases hspelling : t.lexeme.spelling? with
  | none => decide
  | some text =>
    have hsubset := List.Subset.trans h.spelling_subset (t.raw_subset code)
    rw [Lexeme.spelling, hspelling] at hsubset
    exact fun hmem => hcode (hsubset hmem)

namespace Report

/-- The row of a token with its line. -/
def placedRow (entry : Line × Token) : String :=
  tokenRow entry.1 entry.2

/-- The rows of the listing, token by token. -/
theorem tokenRows_eq (skipWhitespace : Bool) (unit : SourceUnit) :
    tokenRows skipWhitespace unit =
      (unit.placedTokens.filter fun entry => !(skipWhitespace && entry.2.lexeme.isNone)).map
        placedRow := by
  simp only [tokenRows, SourceUnit.placedTokens, List.filter_flatMap, List.map_flatMap,
    List.filter_map, List.map_map]
  rfl

/-- The full listing has a row for each token. -/
theorem tokenRows_false (unit : SourceUnit) :
    tokenRows false unit = unit.placedTokens.map placedRow := by
  rw [tokenRows_eq]
  exact congrArg _ (List.filter_eq_self.2 fun _ _ => rfl)

theorem length_tokenRows_false (unit : SourceUnit) :
    (tokenRows false unit).length = unit.tokens.length := by
  rw [tokenRows_false, ← SourceUnit.map_placedTokens, List.length_map, List.length_map]

theorem oneLine_tokenRow {line : Line} {t : Token} (h : Text.OneLine t.lexeme.shown) :
    Text.OneLine (tokenRow line t) := by
  have hliterals : Text.OneLine " " ∧ Text.OneLine ".." ∧ Text.OneLine " L" := by decide
  have hmark : Text.OneLine (if t.invalid then " !" else "") := by split <;> decide
  simp only [tokenRow, Text.oneLine_append, Text.oneLine_padLeft, Text.oneLine_padRight,
    Text.oneLine_toString, Text.oneLine_toString_text, hliterals, t.category.oneLine_name, h, hmark,
    and_self]

theorem oneLine_diagnosticRow {id : ComponentId} {d : Diagnostic} (hid : Text.OneLine id.text)
    (hd : Text.OneLine d.text) : Text.OneLine (diagnosticRow id d) := by
  have hcolon : Text.OneLine ": " := by decide
  simp only [diagnosticRow, Text.oneLine_append, hid, hd, hcolon, and_self]

theorem oneLine_cleanRow {unit : SourceUnit} (hid : Text.OneLine unit.id.text) :
    Text.OneLine (cleanRow unit) := by
  have hliterals : Text.OneLine ": ok (" ∧ Text.OneLine " lines)" := by decide
  simp only [cleanRow, Text.oneLine_append, Text.oneLine_toString, Text.oneLine_toString_text, hid,
    hliterals, and_self]

/-! ## Places in rows -/

/-- The place of a token, read back from its row. -/
def readTokenRow? (row : List Char) : Option TokenPlace :=
  match Text.readNumber (Text.skipPadding row) with
  | (number, ' ' :: rest) =>
    match Text.readNumber rest with
    | (start, '.' :: '.' :: rest) =>
      match Text.readNumber rest with
      | (stop, ' ' :: _) => some ⟨number, start, stop⟩
      | _ => none
    | _ => none
  | _ => none

/-- A place is read number by number. -/
theorem readTokenRow?_eq_some {row rest more last : List Char} {number start stop : Nat}
    (hnumber : Text.readNumber (Text.skipPadding row) = (number, ' ' :: rest))
    (hstart : Text.readNumber rest = (start, '.' :: '.' :: more))
    (hstop : Text.readNumber more = (stop, ' ' :: last)) :
    readTokenRow? row = some ⟨number, start, stop⟩ := by
  simp only [readTokenRow?, hnumber, hstart, hstop]

/-- A row begins with the number of the line and with the columns of the token, between blanks. -/
theorem exists_toList_tokenRow (line : Line) (t : Token) :
    ∃ rest, (tokenRow line t).toList =
      List.replicate (5 - (toString line.number).length) ' ' ++
        ((toString line.number).toList ++ ' ' :: ((toString t.start).toList ++
          '.' :: '.' :: ((toString t.stop).toList ++ ' ' :: rest))) := by
  have hblank : " ".toList = [' '] := rfl
  have hpoints : "..".toList = ['.', '.'] := rfl
  have hletter : " L".toList = [' ', 'L'] := rfl
  have htext : ∀ text : String, toString text = text := fun _ => rfl
  simp only [tokenRow, String.toList_append, Text.toList_padLeft, Text.toList_padRight, htext,
    hblank, hpoints, hletter, List.append_assoc, List.cons_append, List.nil_append,
    Text.padding_cons]
  exact ⟨_, rfl⟩

/-- The place of a token can be read back from its row, whatever the widths of its columns. -/
theorem readTokenRow?_tokenRow (line : Line) (t : Token) :
    readTokenRow? (tokenRow line t).toList = some (line.placeOf t) := by
  have hblank : ' '.isDigit = false := rfl
  have hpoint : '.'.isDigit = false := rfl
  obtain ⟨rest, hrow⟩ := exists_toList_tokenRow line t
  apply readTokenRow?_eq_some
  case hnumber =>
    rw [hrow, Text.skipPadding_toString]
    exact Text.readNumber_append line.number hblank
  case hstart => exact Text.readNumber_append t.start hpoint
  case hstop => exact Text.readNumber_append t.stop hblank

/-- The rows of tokens show the places of the tokens, one after the other. -/
theorem map_readTokenRow? (entries : List (Line × Token)) :
    (entries.map placedRow).map (fun row => readTokenRow? row.toList) =
      entries.map fun entry => some (entry.1.placeOf entry.2) := by
  have hread : (fun row : String => readTokenRow? row.toList) ∘ placedRow =
      fun entry => some (entry.1.placeOf entry.2) := by
    funext entry
    rw [Function.comp_apply, placedRow, readTokenRow?_tokenRow]
  rw [List.map_map, hread]

/-! ## Reports -/

/-- A report has these rows and, if it fails, this reason. -/
def Shows (report : Report) (rows : List String) (failure? : Option Failure) : Prop :=
  rows? report.output = some rows ∧ report.failure? = failure?

theorem shows_success {rows : List String} (h : ∀ row ∈ rows, Text.OneLine row) :
    (success rows).Shows rows none :=
  ⟨rows?_render h, rfl⟩

theorem shows_failed {rows : List String} (h : ∀ row ∈ rows, Text.OneLine row)
    (failure : Failure) : (failed rows failure).Shows rows (some failure) :=
  ⟨rows?_render h, rfl⟩

/-- How the reports on a source file belong together: the file is loaded as a unit, and its full
listing has these rows. -/
structure Listings (files : Files) (path : String) (presets : Presets) (unit : SourceUnit)
    (rows : List String) : Prop where
  /-- The file is loaded as the unit. -/
  loaded : loadUnit files path presets = .ok unit
  /-- The full listing succeeds and has the rows. -/
  full : (run files (.lex false) path presets).Shows rows none
  /-- There is one row for each token and for each diagnostic. -/
  length_rows : rows.length = unit.tokens.length + unit.diagnostics.length
  /-- The first rows are those of the tokens. -/
  tokens : rows.take unit.tokens.length = unit.placedTokens.map placedRow
  /-- The tokens are in the order of lines and columns. -/
  ordered : unit.placedTokens.Pairwise SourceUnit.Precedes
  /-- The first rows show the places of the tokens, in their order. -/
  places : (rows.take unit.tokens.length).map (fun row => readTokenRow? row.toList) =
    unit.placedTokens.map fun entry => some (entry.1.placeOf entry.2)
  /-- The other rows are those of the diagnostics. -/
  diagnostics : rows.drop unit.tokens.length = unit.diagnostics.map (diagnosticRow unit.id)
  /-- The listing without whitespace succeeds and lacks the rows of whitespace tokens. -/
  short : (run files (.lex true) path presets).Shows
    ((unit.placedTokens.filter (·.2.category ≠ .whitespace)).map placedRow ++
      rows.drop unit.tokens.length) none
  /-- If there are diagnostics, the check has their rows and fails with their number. -/
  faulty : unit.diagnostics ≠ [] → (run files .check path presets).Shows
    (rows.drop unit.tokens.length) (some (.diagnostics unit.diagnostics.length))
  /-- If there are none, the check succeeds and has one row. -/
  clean : unit.diagnostics = [] → (run files .check path presets).Shows [cleanRow unit] none

section
variable {id : ComponentId} {presets : Presets} {source : String} {unit : SourceUnit}

theorem oneLine_of_mem_tokenRows (h : SourceUnit.lex id presets source = .ok unit)
    {skipWhitespace : Bool} : ∀ row ∈ tokenRows skipWhitespace unit, Text.OneLine row := by
  rw [tokenRows_eq]
  refine List.forall_mem_map.2 fun ⟨line, t⟩ hmem => oneLine_tokenRow ?_
  obtain ⟨hfaithful, hcode⟩ :=
    SourceUnit.faithful_of_mem_placedTokens h (List.mem_of_mem_filter hmem)
  exact hfaithful.oneLine_shown hcode

theorem oneLine_of_mem_diagnosticRows (h : SourceUnit.lex id presets source = .ok unit)
    (hid : Text.OneLine unit.id.text) : ∀ row ∈ diagnosticRows unit, Text.OneLine row := by
  refine List.forall_mem_map.2 fun d hd => oneLine_diagnosticRow hid (Diagnostic.oneLine_text ?_)
  rw [SourceUnit.ids_of_mem_diagnostics h hd]
  exact fun _ hmem => absurd hmem List.not_mem_nil

/-- Whitespace tokens are those that say nothing. -/
theorem filter_placedTokens (h : SourceUnit.lex id presets source = .ok unit) :
    unit.placedTokens.filter (fun entry => !(true && entry.2.lexeme.isNone)) =
      unit.placedTokens.filter (·.2.category ≠ .whitespace) := by
  refine List.filter_congr fun ⟨line, t⟩ hmem => ?_
  obtain ⟨hfaithful, -⟩ := SourceUnit.faithful_of_mem_placedTokens h hmem
  rw [Bool.true_and, Bool.eq_iff_iff, Bool.not_eq_true', ← Bool.not_eq_true, decide_eq_true_eq]
  exact not_congr (t.lexeme.isNone_iff.trans hfaithful.lexeme_eq_none_iff)

end

/-- The reports on a source file belong together, if the name of the component is one line. -/
theorem run_listings {files : Files} {path source : String}
    (h : readSource files path = .ok source) (hid : Text.OneLine (Path.componentId path).text)
    (presets : Presets) : ∃ unit rows, Listings files path presets unit rows := by
  obtain ⟨unit, hlex⟩ : ∃ unit, SourceUnit.lex (Path.componentId path) presets source = .ok unit :=
    ⟨_, SourceUnit.lex_eq _ _ _⟩
  have hload : loadUnit files path presets = .ok unit := by
    rw [loadUnit_eq h, hlex]
    rfl
  have hunit : Text.OneLine unit.id.text := by rwa [SourceUnit.id_of_lex hlex]
  have hlength := length_tokenRows_false unit
  have hlisted : ∀ skipWhitespace, ∀ row ∈ tokenRows skipWhitespace unit ++ diagnosticRows unit,
      Text.OneLine row := fun skipWhitespace => List.forall_mem_append.2
    ⟨oneLine_of_mem_tokenRows hlex, oneLine_of_mem_diagnosticRows hlex hunit⟩
  have hrest : (tokenRows false unit ++ diagnosticRows unit).drop unit.tokens.length =
      diagnosticRows unit := List.drop_left' hlength
  refine ⟨unit, tokenRows false unit ++ diagnosticRows unit, ?_⟩
  constructor
  case loaded => exact hload
  case full =>
    rw [run_lex hload]
    exact shows_success (hlisted false)
  case length_rows => rw [List.length_append, hlength, diagnosticRows, List.length_map]
  case tokens => rw [List.take_left' hlength, tokenRows_false]
  case ordered => exact SourceUnit.pairwise_placedTokens hlex
  case places => rw [List.take_left' hlength, tokenRows_false, map_readTokenRow?]
  case diagnostics => exact hrest
  case short =>
    rw [run_lex hload, hrest, ← filter_placedTokens hlex, ← tokenRows_eq]
    exact shows_success (hlisted true)
  case faulty =>
    intro hne
    rw [run_check hload, hrest, ofCheck, if_neg (by rwa [List.isEmpty_iff])]
    exact shows_failed (oneLine_of_mem_diagnosticRows hlex hunit) _
  case clean =>
    intro hnil
    rw [run_check hload, ofCheck, if_pos (List.isEmpty_iff.2 hnil)]
    exact shows_success (List.forall_mem_singleton.2 (oneLine_cleanRow hunit))

/-- Three tokens, the last of them with a digit that is none of its base, and a tab in between. -/
theorem run_listings_faulty :
    let files : Files := fun _ => some (.file "x\t0b12".toUTF8)
    readSource files "a.kal" = .ok "x\t0b12" ∧ Text.OneLine (Path.componentId "a.kal").text ∧
      ∃ unit rows, Listings files "a.kal" {} unit rows ∧ rows.length = 5 ∧
        (run files .check "a.kal" {}).Shows (rows.drop 3) (some (.diagnostics 2)) := by
  intro files
  have hsource : readSource files "a.kal" = .ok "x\t0b12" := by decide +kernel
  have hid : Text.OneLine (Path.componentId "a.kal").text := by decide +kernel
  obtain ⟨unit, rows, hlistings⟩ := run_listings hsource hid {}
  have hcounts : (loadUnit files "a.kal" {}).toOption.map
      (fun unit => (unit.tokens.length, unit.diagnostics.length)) = some (3, 2) := by decide +kernel
  rw [hlistings.loaded] at hcounts
  obtain ⟨htokens, hdiagnostics⟩ := Prod.mk.inj (Option.some.inj hcounts)
  have hfaulty := hlistings.faulty (List.ne_nil_of_length_pos (by omega))
  have hlength := hlistings.length_rows
  rw [htokens, hdiagnostics] at hfaulty hlength
  exact ⟨hsource, hid, unit, rows, hlistings, hlength, hfaulty⟩

end Report

end LineLexer
