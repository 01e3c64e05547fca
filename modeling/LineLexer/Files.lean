import LineLexer.Component

/-!
# Files and environment

What the program sees of its surroundings: for every path, what stands there, and for
every variable, its value. A `FileTree` is a view of files held in memory. Paths are
texts with a slash between their names; a dot stays where it is, and two dots go one
directory up.
-/

namespace LineLexer

/-- What stands at a path. -/
inductive Entry where
  | directory
  | file (content : ByteArray)

/-- A view of a file system: what stands at a path, if anything. -/
abbrev Files := String → Option Entry

/-- The values of environment variables. -/
abbrev Environment := String → Option String

namespace Path

/-- A path that does not depend on the working directory. -/
def isAbsolute (path : String) : Bool :=
  path.toList.head? == some '/'

/-- The names of a path, empty ones included. -/
def names (path : String) : List String :=
  (Text.fields '/' path.toList).map String.ofList

/-- The names of a path that lead anywhere. -/
def steps (path : String) : List String :=
  (names path).filter fun name => name ≠ "" ∧ name ≠ "."

/-- The last name of a path, unless it goes up. -/
def fileName? (path : String) : Option String :=
  match (steps path).getLast? with
  | some name => if name = ".." then none else some name
  | none => none

/-- A file name up to its last dot; a dot at its very start does not count. -/
def stem (name : String) : String :=
  let fields := Text.fields '.' name.toList
  let front := Text.join '.' fields.dropLast
  if front.isEmpty then name else String.ofList front

/-- The component that a source file defines, named after the file. -/
def componentId (path : String) : ComponentId :=
  match fileName? path with
  | some name => .parse (stem name)
  | none => ⟨[]⟩

end Path

/-- Files and empty directories by their paths. -/
structure FileTree where
  /-- Each path as its names from the top. -/
  entries : List (List String × Entry)

namespace FileTree

/-- The tree with the given paths; the directories around them exist, too. -/
def ofList (entries : List (String × Entry)) : FileTree :=
  ⟨entries.map fun (path, entry) => (Path.steps path, entry)⟩

/-- What stands at a place given by its names from the top. -/
def entryAt? (tree : FileTree) (place : List String) : Option Entry :=
  match tree.entries.find? (·.1 == place) with
  | some (_, entry) => some entry
  | none =>
    if place.isEmpty ∨ tree.entries.any (place.isPrefixOf ·.1) then some .directory else none

/-- Follows the names of a path from a place. Only a directory can be left for another place, and
nothing is known above the top. -/
def follow (tree : FileTree) : List String → List String → Option Entry
  | [], place => tree.entryAt? place
  | name :: names, place =>
    match tree.entryAt? place with
    | some .directory =>
      if name = "" ∨ name = "." then follow tree names place
      else if name = ".." then
        if place.isEmpty then
          if names.all (· ∈ ["", ".", ".."]) then some .directory else none
        else follow tree names place.dropLast
      else follow tree names (place ++ [name])
    | _ => none

/-- The tree as a view from its top, which has the given absolute path. Nothing stands at the empty
path and outside of the tree. -/
def toFiles (tree : FileTree) (top : String) : Files := fun path =>
  if path.isEmpty then none
  else if Path.isAbsolute path then
    let start := Path.names top
    let names := Path.names path
    if start.isPrefixOf names then tree.follow (names.drop start.length) [] else none
  else tree.follow (Path.names path) []

end FileTree

end LineLexer
