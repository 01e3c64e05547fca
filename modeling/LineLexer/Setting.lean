import LineLexer.Indentation

/-!
# Settings

Values of a configuration file, and how an indentation and the presets are read
from them. A record is given as a table that names its fields, or as a list of
them in order; a field that is not given has its default, and a table may hold
fields of other names.
-/

namespace LineLexer

/-- How a table came to be, which decides where it may be extended. -/
inductive TableKind where
  /-- Written between braces. -/
  | inline
  /-- Opened by a header of its own. -/
  | header
  /-- Implied by the header of a table inside it. -/
  | implied
  /-- Implied by a dotted key. -/
  | dotted
deriving DecidableEq, Repr

/-- A value of a configuration file. -/
inductive Setting where
  | text (text : String)
  | integer (value : Int)
  | boolean (value : Bool)
  /-- A value that no setting of this program has. -/
  | other
  | list (items : List Setting)
  | table (kind : TableKind) (fields : List (String × Setting))
  /-- Tables opened one after another by headers of one name. -/
  | tables (items : List (List (String × Setting)))
deriving Repr, Inhabited

/-- A value that does not fit the setting it is given for. -/
inductive SettingError where
  /-- The text or width is no indentation. -/
  | indentation (error : IndentationError)
  /-- A value of a wrong kind, or a number out of range. -/
  | mismatch
deriving DecidableEq, Repr

/-- What the user is told. -/
def SettingError.message : SettingError → String
  | indentation error => error.message
  | mismatch => "data did not match any variant of untagged enum IndentationRepr"

namespace Setting

/-- The fields of a record, by name or in the order of the given names. -/
def record? (names : List String) : Setting → Option (List (String × Setting))
  | table _ fields => some fields
  | list items => some (names.zip items)
  | _ => none

/-- An indentation: a width, or a text that `Indentation.parse` reads. -/
def toIndentation : Setting → Except SettingError Indentation
  | integer value =>
    if small : value.toNat ≤ 255 then
      if value < 0 then .error .mismatch
      else (Indentation.ofWidth value.toNat small).mapError .indentation
    else .error .mismatch
  | text content => (Indentation.parse content).mapError .indentation
  | _ => .error .mismatch

/-- A truth value. -/
def toBool : Setting → Except SettingError Bool
  | boolean value => .ok value
  | _ => .error .mismatch

/-- A number that is not negative. -/
def toNat : Setting → Except SettingError Nat
  | integer value => if value < 0 then .error .mismatch else .ok value.toNat
  | _ => .error .mismatch

/-- Reads a field of a record, if it is given. -/
def field? {α : Type} (fields : List (String × Setting)) (name : String)
    (read : Setting → Except SettingError α) : Except SettingError (Option α) :=
  match fields.lookup name with
  | some setting => (read setting).map some
  | none => .ok none

end Setting

/-- Names of the fields of presets. -/
def Presets.fieldNames : List String := ["indentation", "parallel"]

/-- Reads presets; a list has at most as many items as there are fields. -/
def Presets.ofSetting (setting : Setting) : Except SettingError Presets := do
  if let .list items := setting then
    if fieldNames.length < items.length then throw .mismatch
  let some fields := setting.record? fieldNames | throw .mismatch
  let indentation? ← Setting.field? fields "indentation" Setting.toIndentation
  let parallel? ← Setting.field? fields "parallel" Setting.toBool
  return { indentation := indentation?.getD .tab, parallel := parallel?.getD false }

end LineLexer
