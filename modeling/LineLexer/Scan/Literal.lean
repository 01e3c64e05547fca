import LineLexer.Scan.Output

/-!
# Scanning quoted literals

A double-quoted literal ends at a quote that does not stand behind a backslash. In
a single-quoted literal two quotes in a row stand for one, and a single one ends
it. The lexeme keeps escapes and doubled quotes as they are written.
-/

namespace LineLexer.Scan

/-- Gives the current character to a double-quoted literal. -/
def resumeDoubleQuoted (cursor : Cursor) (pending : Pending) (c : Char) : Step :=
  if c = '"' ∧ cursor.previous? ≠ some '\\' then
    .next .undemarcated (pending.closeDelimited cursor)
  else .next (.doubleQuoted pending) .empty

/-- Gives the current character to a single-quoted literal. -/
def resumeSingleQuoted (cursor : Cursor) (pending : Pending) (c : Char) : Step :=
  if c ≠ '\'' then .next (.singleQuoted pending) .empty
  else if cursor.peek? 1 = some '\'' then .skip (.singleQuoted pending) 2 .empty
  else .next .undemarcated (pending.closeDelimited cursor)

end LineLexer.Scan
