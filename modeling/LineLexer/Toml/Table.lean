import LineLexer.Setting

/-!
# Tables of a configuration file

A table grows by keys and by headers. No key and no table is defined twice, but a
table that was only implied can be extended: one implied by a header by a header
of its own, and one implied by a dotted key by more dotted keys. A name that stands
for a list of tables leads into the last of them.
-/

namespace LineLexer.Toml

/-- The fields of a table in the order of their definition. -/
abbrev Fields := List (String × Setting)

/-- The fields with one of them replaced. -/
def replace (fields : Fields) (name : String) (setting : Setting) : Fields :=
  fields.map fun (key, old) => if key = name then (key, setting) else (key, old)

/-- The list of tables with its last one replaced. -/
def replaceLast (items : List Fields) (fields : Fields) : Setting :=
  .tables (items.dropLast ++ [fields])

/-- Defines a field that is not yet defined. -/
def define (fields : Fields) (name : String) (setting : Setting) : Option Fields :=
  if (fields.lookup name).isSome then none else some (fields ++ [(name, setting)])

/-- Defines a field by a dotted key. The table that holds the field has to come from dotted keys,
too; the tables around it may as well be implied by headers. -/
def insert : List String → Setting → Fields → Option Fields
  | [], _, _ => none
  | [name], setting, fields => define fields name setting
  | name :: next :: path, setting, fields => do
    match fields.lookup name with
    | none =>
      let inner ← insert (next :: path) setting []
      some (fields ++ [(name, .table .dotted inner)])
    | some (.table .dotted inner) =>
      let inner ← insert (next :: path) setting inner
      some (replace fields name (.table .dotted inner))
    | some (.table .implied inner) =>
      if path.isEmpty then none
      else
        let inner ← insert (next :: path) setting inner
        some (replace fields name (.table .implied inner))
    | some (.tables items) =>
      if path.isEmpty then none
      else
        let inner ← insert (next :: path) setting (items.getLastD [])
        some (replace fields name (replaceLast items inner))
    | some _ => none

/-- Changes the table at a path of names; tables on the way that do not exist are implied. -/
def within : List String → (Fields → Option Fields) → Fields → Option Fields
  | [], change, fields => change fields
  | name :: path, change, fields => do
    match fields.lookup name with
    | none =>
      let inner ← within path change []
      some (fields ++ [(name, .table .implied inner)])
    | some (.table .inline _) => none
    | some (.table kind inner) =>
      let inner ← within path change inner
      some (replace fields name (.table kind inner))
    | some (.tables items) =>
      let inner ← within path change (items.getLastD [])
      some (replace fields name (replaceLast items inner))
    | some _ => none

/-- Opens a table by its header. -/
def openTable (name : String) (fields : Fields) : Option Fields :=
  match fields.lookup name with
  | none => some (fields ++ [(name, .table .header [])])
  | some (.table .implied inner) => some (replace fields name (.table .header inner))
  | some _ => none

/-- Opens one more table of a list of tables by its header. -/
def appendTable (name : String) (fields : Fields) : Option Fields :=
  match fields.lookup name with
  | none => some (fields ++ [(name, .tables [[]])])
  | some (.tables items) => some (replace fields name (.tables (items ++ [[]])))
  | some _ => none

/-- Applies a change to the table that a path leads to, under the last name of the path. -/
def atHeader (path : List String) (change : String → Fields → Option Fields) (fields : Fields) :
    Option Fields :=
  match path.getLast? with
  | some name => within path.dropLast (change name) fields
  | none => none

end LineLexer.Toml
