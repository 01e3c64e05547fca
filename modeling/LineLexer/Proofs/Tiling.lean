import LineLexer.Line
import LineLexer.Proofs.Invariant
import Mathlib.Data.List.Chain

/-!
# The tokens of a line tile it

Every column of a line belongs to exactly one of its tokens. The tokens emitted so far
always reach from the first column to `Mode.settled`: the start of the token under
construction, or the cursor if there is none. Each transition takes that column on by
the tokens it emits, and the end of the line takes it to the end.

* `Tiles`: tokens that cover a run of columns one after the other;
* `scan_tiles`: the tokens of a line cover it;
* `tokenize_tiling`: the same, spelled out for the tokens of a `Line`.
-/

namespace LineLexer

/-- The characters of a line that a token covers. -/
def Token.raw (t : Token) (code : List Char) : List Char :=
  (code.take t.stop).drop t.start

/-- Tokens that cover the columns from one to another, one after the other. -/
def Tiles : Nat → List Token → Nat → Prop
  | start, [], stop => start = stop
  | start, t :: ts, stop => t.start = start ∧ t.start < t.stop ∧ Tiles t.stop ts stop

namespace Tiles

theorem append {a b c : Nat} {ts us : List Token} (h : Tiles a ts b) (h' : Tiles b us c) :
    Tiles a (ts ++ us) c := by
  induction ts generalizing a with
  | nil =>
    have hab : a = b := h
    rwa [hab]
  | cons t ts ih =>
    obtain ⟨hstart, hlt, hrest⟩ := h
    exact ⟨hstart, hlt, ih hrest⟩

theorem singleton {t : Token} {a b : Nat} (hstart : t.start = a) (hstop : t.stop = b)
    (hlt : a < b) : Tiles a [t] b :=
  ⟨hstart, by omega, hstop⟩

theorem le {a b : Nat} {ts : List Token} (h : Tiles a ts b) : a ≤ b := by
  induction ts generalizing a with
  | nil => exact Nat.le_of_eq h
  | cons t ts ih =>
    obtain ⟨hstart, hlt, hrest⟩ := h
    have hle := ih hrest
    omega

/-- Only an empty run has no tokens. -/
theorem eq_nil_iff {a b : Nat} {ts : List Token} (h : Tiles a ts b) : ts = [] ↔ a = b := by
  cases ts with
  | nil => exact ⟨fun _ => h, fun _ => rfl⟩
  | cons t ts =>
    obtain ⟨hstart, hlt, hrest⟩ := h
    have hle := hrest.le
    exact ⟨fun hnil => absurd hnil (List.cons_ne_nil t ts), fun hab => by omega⟩

/-- Every token lies inside the run. -/
theorem bounds {a b : Nat} {ts : List Token} (h : Tiles a ts b) :
    ∀ t ∈ ts, a ≤ t.start ∧ t.start < t.stop ∧ t.stop ≤ b := by
  induction ts generalizing a with
  | nil => exact fun _ ht => absurd ht List.not_mem_nil
  | cons t ts ih =>
    obtain ⟨hstart, hlt, hrest⟩ := h
    intro u hu
    rcases List.mem_cons.1 hu with rfl | hu
    · exact ⟨Nat.le_of_eq hstart.symm, hlt, hrest.le⟩
    · obtain ⟨hle, hbounds⟩ := ih hrest u hu
      exact ⟨by omega, hbounds⟩

theorem pairwise {a b : Nat} {ts : List Token} (h : Tiles a ts b) :
    ts.Pairwise fun t u => t.stop ≤ u.start := by
  induction ts generalizing a with
  | nil => exact .nil
  | cons t ts ih =>
    obtain ⟨-, -, hrest⟩ := h
    exact .cons (fun u hu => (hrest.bounds u hu).1) (ih hrest)

/-- Two tokens of a run are the same, or one ends before the other starts. -/
theorem eq_or_disjoint {a b : Nat} {ts : List Token} {t u : Token} (h : Tiles a ts b)
    (ht : t ∈ ts) (hu : u ∈ ts) : t = u ∨ t.stop ≤ u.start ∨ u.stop ≤ t.start := by
  induction ts generalizing a with
  | nil => exact absurd ht List.not_mem_nil
  | cons first rest ih =>
    obtain ⟨-, -, hrest⟩ := h
    rcases List.mem_cons.1 ht with hfirst | ht <;> rcases List.mem_cons.1 hu with hfirst' | hu
    · exact .inl (hfirst.trans hfirst'.symm)
    · rw [hfirst]
      exact .inr (.inl (hrest.bounds u hu).1)
    · rw [hfirst']
      exact .inr (.inr (hrest.bounds t ht).1)
    · exact ih hrest ht hu

theorem isChain {a b : Nat} {ts : List Token} (h : Tiles a ts b) :
    ts.IsChain fun t u => t.stop = u.start := by
  induction ts generalizing a with
  | nil => exact .nil
  | cons t ts ih =>
    obtain ⟨-, -, hrest⟩ := h
    cases ts with
    | nil => exact .singleton t
    | cons u us => exact .cons_cons hrest.1.symm (ih hrest)

theorem start_of_head? {a b : Nat} {ts : List Token} {t : Token} (h : Tiles a ts b)
    (ht : t ∈ ts.head?) : t.start = a := by
  cases ts with
  | nil => exact absurd ht (by simp)
  | cons u us =>
    obtain rfl : u = t := by simpa using ht
    exact h.1

theorem stop_of_getLast? {a b : Nat} {ts : List Token} {t : Token} (h : Tiles a ts b)
    (ht : t ∈ ts.getLast?) : t.stop = b := by
  induction ts generalizing a with
  | nil => exact absurd ht (by simp)
  | cons u us ih =>
    obtain ⟨-, -, hrest⟩ := h
    cases us with
    | nil =>
      obtain rfl : u = t := by simpa using ht
      exact hrest
    | cons v vs =>
      rw [List.getLast?_cons_cons] at ht
      exact ih hrest ht

/-- The texts of the tokens join to the text of the run. -/
theorem flatten_raw {code : List Char} {a b : Nat} {ts : List Token} (h : Tiles a ts b) :
    (ts.map (·.raw code)).flatten = (code.take b).drop a := by
  induction ts generalizing a with
  | nil =>
    have hab : a = b := h
    rw [hab, List.drop_take, Nat.sub_self, List.take_zero]
    rfl
  | cons t ts ih =>
    obtain ⟨hstart, hlt, hrest⟩ := h
    have hslice := (Cursor.ofList code).slice_append (Nat.le_of_lt hlt) hrest.le
    rw [Cursor.slice_eq, Cursor.slice_eq, Cursor.slice_eq] at hslice
    rw [List.map_cons, List.flatten_cons, ih hrest, ← hstart]
    exact hslice

end Tiles

namespace Scan

/-- The column up to which the tokens are out. -/
def Mode.settled (mode : Mode) (cursor : Cursor) : Nat :=
  match mode.pending? with
  | some p => p.start
  | none => cursor.position

theorem Mode.settled_of_some {mode : Mode} {cursor : Cursor} {p : Pending}
    (h : mode.pending? = some p) : mode.settled cursor = p.start := by
  simp only [settled, h]

theorem Mode.settled_of_none {mode : Mode} {cursor : Cursor} (h : mode.pending? = none) :
    mode.settled cursor = cursor.position := by
  simp only [settled, h]

theorem Mode.settled_between (separated : Bool) (cursor : Cursor) :
    (Mode.between separated).settled cursor = cursor.position := by
  cases separated <;> rfl

/-- A transition takes the settled column on by the tokens it emits. -/
theorem Transition.tiles {cursor : Cursor} {c : Char} {mode : Mode} {s : Step}
    (h : Transition cursor c mode s) (hd : mode.Describes cursor)
    (hc : cursor.current? = some c) :
    Tiles (mode.settled cursor) s.output.tokens (s.mode.settled (cursor.advance s.advance)) := by
  have hlt := Cursor.position_lt_of_current? hc
  cases h with
  | opens h =>
    obtain ⟨p, hp, hstart⟩ := h.pending?
    rw [Mode.settled_between, Mode.settled_of_some hp]
    exact hstart.symm
  | emits h =>
    obtain ⟨hnone, hstart, hstop, hpos, hle⟩ := h.span hc
    rw [Mode.settled_between, Mode.settled_of_none hnone, Cursor.position_advance hle]
    exact Tiles.singleton hstart hstop (by omega)
  | resumes h =>
    obtain ⟨p, q, hp, hq, hstart⟩ := h.pending?
    rw [Mode.settled_of_some hp, Mode.settled_of_some hq]
    exact hstart.symm
  | @closes mode next faults t n h =>
    obtain ⟨hbetween, hn, p, hp, hstart, hstop⟩ := h.span
    have hopen := hd.start_lt hp
    have hle : cursor.position + n ≤ cursor.size := by omega
    rw [Mode.settled_of_some hp, Mode.settled_of_none (Mode.pending?_eq_none_of_isBetween hbetween),
      Cursor.position_advance hle]
    exact Tiles.singleton hstart hstop (by omega)
  | handsOver h =>
    obtain ⟨p, q, hp, hq, hstart, hstop, hnext⟩ := h.span
    rw [Mode.settled_of_some hp, Mode.settled_of_some hq]
    exact Tiles.singleton hstart (hstop.trans hnext.symm) (hnext ▸ hd.start_lt hp)

/-- In every reachable state the tokens put out so far reach to the settled column. -/
theorem Reaches.tiles {code : List Char} {mode : Mode} {cursor : Cursor} {output : Output}
    (h : Reaches code mode cursor output) : Tiles 0 output.tokens (mode.settled cursor) := by
  induction h with
  | start => rfl
  | step h hc ih => exact ih.append ((transition_step h.describes hc).tiles h.describes hc)

/-- The tokens of a line cover it. -/
theorem scan_tiles (code : List Char) : Tiles 0 (scan code).tokens code.length := by
  obtain ⟨mode, cursor, output, hreach, hend, -, hscan⟩ := exists_reaches_scan code
  rw [hscan, ← hreach.size]
  refine hreach.tiles.append ?_
  rcases finishes_finish hreach.describes hend with ⟨hnone, hempty⟩ | ⟨faults, t, hfin, heq⟩
  · rw [hempty, Mode.settled_of_none hnone]
    exact hend
  · obtain ⟨p, hp, hstart, hstop⟩ := hfin.span
    have hopen := hreach.describes.start_lt hp
    rw [heq, Mode.settled_of_some hp]
    exact Tiles.singleton hstart hstop (by omega)

end Scan

/-- Tokens that divide up the characters of a line. -/
structure Tiling (code : List Char) (tokens : List Token) : Prop where
  /-- No token is empty. -/
  start_lt_stop : ∀ t ∈ tokens, t.start < t.stop
  /-- The tokens stand in the order of the line. -/
  ordered : tokens.Pairwise fun t u => t.stop ≤ u.start
  /-- The first token starts with the line. -/
  first : ∀ t ∈ tokens.head?, t.start = 0
  /-- Each next token starts where the one before it ends. -/
  adjacent : tokens.IsChain fun t u => t.stop = u.start
  /-- The last token ends with the line. -/
  last : ∀ t ∈ tokens.getLast?, t.stop = code.length
  /-- Only an empty line has no tokens. -/
  eq_nil_iff : tokens = [] ↔ code = []
  /-- The texts of the tokens join to the line. -/
  flatten_raw : (tokens.map (·.raw code)).flatten = code

/-- The tokens of a line divide up its code, whatever characters it consists of. -/
theorem tokenize_tiling (line : Line) : Tiling line.code.toList line.tokenize.1 := by
  have htiles := Scan.scan_tiles line.code.toList
  show Tiling line.code.toList (Scan.scan line.code.toList).tokens
  refine ⟨fun t ht => (htiles.bounds t ht).2.1, htiles.pairwise, fun t => htiles.start_of_head?,
    htiles.isChain, fun t => htiles.stop_of_getLast?, ?_, ?_⟩
  · rw [htiles.eq_nil_iff, eq_comm, List.length_eq_zero_iff]
  · rw [htiles.flatten_raw, List.take_length, List.drop_zero]

end LineLexer
