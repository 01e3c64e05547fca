import LineLexer.Text.Fields

/-!
# Component identifiers

A component is one source unit. Its identifier is a path of names, written with
dots between them; reading such a text drops empty names.
-/

namespace LineLexer

/-- The identifier of a component. -/
structure ComponentId where
  /-- The names from the outermost to the innermost. -/
  path : List String
deriving DecidableEq, Repr

namespace ComponentId

/-- Stands between the names of a path. -/
def separator : Char := '.'

/-- Reads a dotted path. -/
def parse (dotted : String) : ComponentId :=
  ⟨((Text.fields separator dotted.toList).filter (!·.isEmpty)).map String.ofList⟩

/-- The dotted path. -/
def text (id : ComponentId) : String :=
  String.ofList (Text.join separator (id.path.map String.toList))

/-- The innermost name. -/
def name? (id : ComponentId) : Option String :=
  id.path.getLast?

/-- The identifier with no name. -/
def isEmpty (id : ComponentId) : Bool :=
  id.path.isEmpty

/-- The identifier one level further in. -/
def child (id : ComponentId) (name : String) : ComponentId :=
  ⟨id.path ++ [name]⟩

/-- Compares paths name by name; a path comes before its extensions. -/
def comparePaths : List String → List String → Ordering
  | [], [] => .eq
  | [], _ :: _ => .lt
  | _ :: _, [] => .gt
  | a :: as, b :: bs => (compareOfLessAndEq a b).then (comparePaths as bs)

instance : Ord ComponentId where
  compare a b := comparePaths a.path b.path

end ComponentId

end LineLexer
