import LineLexer.Setting
import LineLexer.Toml.Reader

/-!
# Dates and times of a configuration file

Dates and times are recognized, but no setting has such a value: a date or time
counts as a table with a field of its own.
-/

namespace LineLexer.Toml

/-- A number of exactly so many digits within bounds. -/
def bounded? (count low high : Nat) (text : List Char) : Option (Nat × List Char) :=
  let digits := text.take count
  if digits.length = count ∧ digits.all Char.isDigit then
    let value := valueOf 10 digits
    if low ≤ value ∧ value ≤ high then some (value, text.drop count) else none
  else none

/-- Number of days of a month. -/
def daysOf (year month : Nat) : Nat :=
  if month = 2 then
    if year % 4 = 0 ∧ (year % 100 ≠ 0 ∨ year % 400 = 0) then 29 else 28
  else if month = 4 ∨ month = 6 ∨ month = 9 ∨ month = 11 then 30
  else 31

/-- The text behind a date. -/
def date? (text : List Char) : Option (List Char) := do
  let (year, rest) ← bounded? 4 0 9999 text
  let (month, rest) ← bounded? 2 1 12 (← expect '-' rest)
  let (_, rest) ← bounded? 2 1 (daysOf year month) (← expect '-' rest)
  some rest

/-- The text behind the time of a day. -/
def time? (text : List Char) : Option (List Char) := do
  let (_, rest) ← bounded? 2 0 23 text
  let (_, rest) ← bounded? 2 0 59 (← expect ':' rest)
  let (_, rest) ← bounded? 2 0 60 (← expect ':' rest)
  match rest with
  | '.' :: rest =>
    if (rest.takeWhile Char.isDigit).isEmpty then none else some (rest.dropWhile Char.isDigit)
  | _ => some rest

/-- The text behind an offset from universal time, if there is one. -/
def timeOffset? (text : List Char) : Option (List Char) :=
  match text with
  | 'Z' :: rest | 'z' :: rest => some rest
  | '+' :: rest | '-' :: rest => do
    let (_, rest) ← bounded? 2 0 23 rest
    let (_, rest) ← bounded? 2 0 59 (← expect ':' rest)
    some rest
  | _ => some text

/-- What marks a date or time: four digits and a hyphen, or two digits and a colon. -/
def isDateTime (text : List Char) : Bool :=
  (text.take 4).all Char.isDigit && text[4]? == some '-' ||
  (text.take 2).all Char.isDigit && text[2]? == some ':'

/-- A date and time, a date, or a time; it is a table with a field of its own. -/
def dateTime? (text : List Char) : Option (Setting × List Char) :=
  let setting := Setting.table .inline [("date-time", .other)]
  if text[2]? = some ':' then (time? text).map (setting, ·)
  else do
    let rest ← date? text
    match rest with
    | 'T' :: more | 't' :: more => do
      let rest ← time? more
      (timeOffset? rest).map (setting, ·)
    | ' ' :: d :: more =>
      if d.isDigit then
        let rest ← time? (d :: more)
        (timeOffset? rest).map (setting, ·)
      else some (setting, rest)
    | _ => some (setting, rest)

end LineLexer.Toml
