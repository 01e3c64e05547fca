import LineLexer.Proofs.Content
import LineLexer.Proofs.Rows
import LineLexer.Toml.Reader
import Mathlib.Algebra.Group.Nat.Defs

/-!
# The listing of lines

A row of the listing has a number, the level behind the letter L, a fingerprint of sixteen digits,
and the code. Its columns are filled up with the blank that also stands between them, the code may
start with blanks, and wide numbers leave their columns. A row can still be read in one way only:
blanks in front of a number are skipped, a number ends where its digits end, and the code begins one
blank behind a fingerprint of known length. So whoever has the listing has the lines:
`Report.lines_decodable`.

* `LineEntry`: what the listing tells of a line;
* `Report.readLineRow?`: a row, read back;
* `Report.readListing?`: a listing, read back.
-/

namespace LineLexer

/-- What the listing tells of a line of code. -/
structure LineEntry where
  /-- Number of the line. -/
  number : Nat
  /-- Indentation level. -/
  level : Nat
  /-- The fingerprint of the code. -/
  fingerprint : UInt64
  /-- The code. -/
  code : String
deriving DecidableEq, Repr

/-- What the listing tells of this line. -/
def Line.entry (line : Line) : LineEntry :=
  ⟨line.number, line.level, line.fingerprint, line.code⟩

namespace Text

/-! ## Fingerprints -/

@[simp]
theorem length_hexDigits (width n : Nat) : (hexDigits width n).length = width := by
  induction width generalizing n with
  | zero => rfl
  | succ width ih => rw [hexDigits, List.length_append, ih, List.length_singleton]

theorem digitValue_hexDigit : ∀ d < 16, Toml.digitValue (hexDigit d) = d := by
  decide

/-- The digits that are written are those of the number up to the width. -/
theorem valueOf_hexDigits (width n : Nat) :
    Toml.valueOf 16 (hexDigits width n) = n % 16 ^ width := by
  induction width generalizing n with
  | zero => exact (Nat.mod_one n).symm
  | succ width ih =>
    have hprefix : (hexDigits width (n / 16)).foldl
        (fun value c => value * 16 + Toml.digitValue c) 0 = n / 16 % 16 ^ width := ih (n / 16)
    have hdigit := digitValue_hexDigit (n % 16) (Nat.mod_lt n (by decide))
    rw [hexDigits, Toml.valueOf, List.foldl_append, hprefix, List.foldl_cons, List.foldl_nil,
      hdigit, Nat.pow_succ', Nat.mod_mul, Nat.add_comm, Nat.mul_comm]

/-- A word off the front of a text, and the text behind it. -/
def readWord (text : List Char) : UInt64 × List Char :=
  (.ofNat (Toml.valueOf 16 (text.take 16)), text.drop 16)

theorem toList_hexWord (word : UInt64) : (hexWord word).toList = hexDigits 16 word.toNat :=
  String.toList_ofList

/-- A word has a known number of digits. -/
theorem readWord_append (word : UInt64) (rest : List Char) :
    readWord ((hexWord word).toList ++ rest) = (word, rest) := by
  have hlength := length_hexDigits 16 word.toNat
  have hvalue : Toml.valueOf 16 (hexDigits 16 word.toNat) = word.toNat :=
    (valueOf_hexDigits 16 word.toNat).trans (Nat.mod_eq_of_lt word.toNat_lt)
  rw [readWord, toList_hexWord, List.take_left' hlength, List.drop_left' hlength, hvalue,
    UInt64.ofNat_toNat]

theorem toList_hexWord_ne_nil (word : UInt64) : (hexWord word).toList ≠ [] := by
  rw [toList_hexWord, ← List.length_pos_iff, length_hexDigits]
  decide

theorem space_notMem_hexWord (word : UInt64) : ' ' ∉ (hexWord word).toList := by
  rw [toList_hexWord]
  exact fun hmem => forall_mem_hexDigits (P := (· ≠ ' ')) (by decide) 16 word.toNat ' ' hmem rfl

end Text

namespace Report

/-! ## Rows -/

/-- The row of a line of code, read back. -/
def readLineRow? (row : List Char) : Option LineEntry :=
  match Text.readNumber (Text.skipPadding row) with
  | (number, ' ' :: 'L' :: rest) =>
    let (level, rest) := Text.readNumber rest
    match Text.readWord (Text.skipPadding rest) with
    | (fingerprint, ' ' :: code) => some ⟨number, level, fingerprint, String.ofList code⟩
    | _ => none
  | _ => none

/-- A row is read column by column. -/
theorem readLineRow?_eq_some {row rest more code : List Char} {number level : Nat}
    {fingerprint : UInt64}
    (hnumber : Text.readNumber (Text.skipPadding row) = (number, ' ' :: 'L' :: rest))
    (hlevel : Text.readNumber rest = (level, more))
    (hword : Text.readWord (Text.skipPadding more) = (fingerprint, ' ' :: code)) :
    readLineRow? row = some ⟨number, level, fingerprint, String.ofList code⟩ := by
  simp only [readLineRow?, hnumber, hlevel, hword]

/-- The columns of a row. -/
theorem toList_lineRow (line : Line) :
    (lineRow line).toList =
      List.replicate (5 - (toString line.number).length) ' ' ++
        ((toString line.number).toList ++ ' ' :: 'L' :: ((toString line.level).toList ++
          (List.replicate (2 - (toString line.level).length) ' ' ++
            ' ' :: ((Text.hexWord line.fingerprint).toList ++ ' ' :: line.code.toList)))) := by
  have hblank : " ".toList = [' '] := rfl
  have hletter : " L".toList = [' ', 'L'] := rfl
  simp only [lineRow, String.toList_append, Text.toList_padLeft, Text.toList_padRight, hblank,
    hletter, List.append_assoc, List.cons_append, List.nil_append]

/-- Every row can be read back, whatever the widths of its columns. -/
theorem readLineRow?_lineRow (line : Line) :
    readLineRow? (lineRow line).toList = some line.entry := by
  have hspace : ' '.isDigit = false := rfl
  rw [Line.entry, ← String.ofList_toList (s := line.code), toList_lineRow, Text.padding_cons]
  apply readLineRow?_eq_some
  case hnumber =>
    rw [Text.skipPadding_toString]
    exact Text.readNumber_append line.number hspace
  case hlevel => exact Text.readNumber_append line.level hspace
  case hword =>
    -- the blank that ends the level is one more of its padding
    rw [← List.cons_append, ← List.replicate_succ,
      Text.skipPadding_append _ (Text.space_notMem_hexWord line.fingerprint)
        (Text.toList_hexWord_ne_nil line.fingerprint)]
    exact Text.readWord_append line.fingerprint _

/-! ## Listings -/

/-- The entries of a listing. A listing with a row that cannot be read is not read. -/
def readListing? (output : String) : Option (List LineEntry) :=
  (rows? output).bind (List.mapM fun row => readLineRow? row.toList)

theorem oneLine_lineRow {line : Line} (h : Text.OneLine line.code) :
    Text.OneLine (lineRow line) := by
  have hliterals : Text.OneLine " L" ∧ Text.OneLine " " := by decide
  simp only [lineRow, Text.oneLine_append, Text.oneLine_padLeft, Text.oneLine_padRight,
    Text.oneLine_toString, Text.oneLine_hexWord, hliterals, h, and_self]

/-- Lines whose code is one line each are read back from their listing. -/
theorem readListing?_render {lines : List Line} (h : ∀ line ∈ lines, Text.OneLine line.code) :
    readListing? (render (lines.map lineRow)) = some (lines.map Line.entry) := by
  have hrows : ∀ row ∈ lines.map lineRow, Text.OneLine row :=
    List.forall_mem_map.2 fun line hline => oneLine_lineRow (h line hline)
  have hread : (fun row : String => readLineRow? row.toList) ∘ lineRow =
      fun line => pure line.entry := by
    funext line
    rw [Function.comp_apply, readLineRow?_lineRow]
    rfl
  rw [readListing?, rows?_render hrows, Option.bind_some, List.mapM_map, hread, List.mapM_pure]
  rfl

/-- The listing of a source file is read back as the lines of its text. -/
theorem readListing?_run {files : Files} {path source : String}
    (h : readSource files path = .ok source) (presets : Presets) :
    (run files .lines path presets).failure? = none ∧
      readListing? (run files .lines path presets).output =
        some ((Layout.linesOf presets.indentation source.toList).map Line.entry) := by
  rw [run_lines (loadLines_eq h presets)]
  exact ⟨rfl, readListing?_render fun line hline => Layout.newline_notMem_of_mem_linesOf hline⟩

/-- The listing of a source file succeeds and can be read back. So if two source files have the same
listing, they have the same lines, in number, level, fingerprint and code. -/
theorem lines_decodable {files files' : Files} {path path' source source' : String}
    (h : readSource files path = .ok source) (h' : readSource files' path' = .ok source')
    (presets presets' : Presets) :
    let unit := SourceUnit.linearize (Path.componentId path) presets.indentation source
    let unit' := SourceUnit.linearize (Path.componentId path') presets'.indentation source'
    (run files .lines path presets).failure? = none ∧
      readListing? (run files .lines path presets).output = some (unit.lines.map Line.entry) ∧
      ((run files .lines path presets).output = (run files' .lines path' presets').output →
        unit.lines.map Line.entry = unit'.lines.map Line.entry) := by
  obtain ⟨hsuccess, hread⟩ := readListing?_run h presets
  obtain ⟨-, hread'⟩ := readListing?_run h' presets'
  refine ⟨hsuccess, hread, fun houtput => ?_⟩
  rw [houtput, hread'] at hread
  exact (Option.some.inj hread).symm

/-- A line with a comment, indented by a tab, and one without, indented by four spaces. -/
theorem lines_decodable_indented :
    let files : Files := fun _ => some (.file "\tx  1 # one".toUTF8)
    let files' : Files := fun _ => some (.file "    x  1".toUTF8)
    let presets' : Presets := { indentation := .spaces 4 (by decide) (by decide) }
    readSource files "a.kal" = .ok "\tx  1 # one" ∧ readSource files' "b.kal" = .ok "    x  1" ∧
      (run files .lines "a.kal" {}).output = (run files' .lines "b.kal" presets').output ∧
      (SourceUnit.linearize ⟨["a"]⟩ .tab "\tx  1 # one").lines.map Line.entry =
        (SourceUnit.linearize ⟨["b"]⟩ presets'.indentation "    x  1").lines.map Line.entry := by
  intro files files' presets'
  have hsource : readSource files "a.kal" = .ok "\tx  1 # one" := by decide +kernel
  have hsource' : readSource files' "b.kal" = .ok "    x  1" := by decide +kernel
  have houtput : (run files .lines "a.kal" {}).output =
      (run files' .lines "b.kal" presets').output := by decide +kernel
  exact ⟨hsource, hsource', houtput, (lines_decodable hsource hsource' {} presets').2.2 houtput⟩

end Report

end LineLexer
